import KymaOperator.Api
import Mathlib.Data.String.Basic

namespace KymaOperator.Manifests

structure Unstructured where
  ns : String
  name : String
  groupVersionKind : GroupVersionKind
  object : String
  deriving DecidableEq, Repr

inductive RuntimeObject where
  | unstructured (item : Unstructured)
  | typed (kind : String)
  deriving DecidableEq, Repr

def RuntimeObject.asUnstructured : RuntimeObject → Option Unstructured
  | .unstructured item => some item
  | .typed _ => none

structure Info where
  object : RuntimeObject
  deriving DecidableEq, Repr

structure Result where
  err : Option String
  infos : Except String (List Info)

def getID (item : Unstructured) : String :=
  "/".intercalate [item.ns, item.name, item.groupVersionKind.group, item.groupVersionKind.version,
    item.groupVersionKind.kind]

structure ParseState where
  countMap : AList fun _ : String => Bool
  objects : List Unstructured

def collectItem (s : ParseState) (item : Info) : ParseState :=
  match item.object.asUnstructured with
  | none => s
  | some unstructuredItem =>
    let id := getID unstructuredItem
    if (s.countMap.lookup id).getD false then s
    else ⟨s.countMap.insert id true, s.objects ++ [unstructuredItem]⟩

def parseManifestToObjects (result : Result) : Except String (List Unstructured) :=
  match result.err with
  | some err => .error ("parse manifest: " ++ err)
  | none =>
    match result.infos with
    | .error err => .error ("parse manifest to resource infos: " ++ err)
    | .ok items => .ok (items.foldl collectItem ⟨∅, []⟩).objects

def unstructuredItems (items : List Info) : List Unstructured :=
  items.filterMap (·.object.asUnstructured)

theorem parseManifestToObjects_ok {result : Result} {objects : List Unstructured}
    (h : parseManifestToObjects result = .ok objects) :
    ∃ items, result.infos = .ok items ∧ objects = (items.foldl collectItem ⟨∅, []⟩).objects := by
  unfold parseManifestToObjects at h
  split at h
  · cases h
  · split at h
    · cases h
    · exact ⟨_, ‹_›, (Except.ok.inj h).symm⟩

structure ParseState.Reads (s : ParseState) (pre : List Unstructured) : Prop where
  countMap_iff : ∀ id, (s.countMap.lookup id).getD false = true ↔ ∃ u ∈ pre, getID u = id
  mem_objects : ∀ o, o ∈ s.objects ↔ pre.find? (fun u => getID u == getID o) = some o
  sublist : s.objects.Sublist pre
  nodup : (s.objects.map getID).Nodup

theorem ParseState.reads_nil : (⟨∅, []⟩ : ParseState).Reads [] :=
  ⟨by simp, by simp, .slnil, .nil⟩

theorem find?_append_singleton {p : Unstructured → Bool} {pre : List Unstructured} {u o : Unstructured} :
    (pre ++ [u]).find? p = some o ↔ pre.find? p = some o ∨ pre.find? p = none ∧ p u = true ∧ u = o := by
  simp [List.find?_append, Option.or_eq_some, List.find?_singleton]

theorem ParseState.Reads.skip {s : ParseState} {pre : List Unstructured} {u : Unstructured} (h : s.Reads pre)
    (hseen : (s.countMap.lookup (getID u)).getD false = true) : s.Reads (pre ++ [u]) := by
  obtain ⟨u', hu', hid⟩ := (h.countMap_iff _).mp hseen
  refine ⟨fun id => ?_, fun o => ?_, h.sublist.trans (List.sublist_append_left _ _), h.nodup⟩
  · simp only [h.countMap_iff, List.mem_append, List.mem_singleton, or_and_right, exists_or, exists_eq_left]
    exact (or_iff_left_of_imp fun hu => ⟨u', hu', hid.trans hu⟩).symm
  · rw [h.mem_objects, find?_append_singleton]
    refine (or_iff_left_of_imp ?_).symm
    rintro ⟨hnone, -, rfl⟩
    simpa [hid] using List.find?_eq_none.mp hnone u' hu'

theorem ParseState.Reads.append {s : ParseState} {pre : List Unstructured} {u : Unstructured} (h : s.Reads pre)
    (hseen : ¬(s.countMap.lookup (getID u)).getD false = true) :
    (⟨s.countMap.insert (getID u) true, s.objects ++ [u]⟩ : ParseState).Reads (pre ++ [u]) := by
  have hfresh : ∀ v ∈ pre, getID v ≠ getID u := fun v hv hv' => hseen ((h.countMap_iff _).mpr ⟨v, hv, hv'⟩)
  refine ⟨fun id => ?_, fun o => ?_, h.sublist.append (List.Sublist.refl _), ?_⟩
  · by_cases hk : id = getID u
    · subst hk
      simpa using ⟨u, .inr rfl, rfl⟩
    · rw [AList.lookup_insert_ne hk, h.countMap_iff]
      simp [or_and_right, exists_or, Ne.symm hk]
  · rw [List.mem_append, List.mem_singleton, h.mem_objects, find?_append_singleton]
    refine or_congr_right ⟨?_, fun ⟨_, _, hu⟩ => hu.symm⟩
    rintro rfl
    exact ⟨List.find?_eq_none.mpr fun v hv => by simpa using hfresh v hv, by simp, rfl⟩
  · simpa [List.nodup_append] using ⟨h.nodup, fun o ho => hfresh o (h.sublist.subset ho)⟩

theorem ParseState.Reads.collect {s : ParseState} {pre : List Unstructured} (h : s.Reads pre)
    (item : Info) : (collectItem s item).Reads (pre ++ item.object.asUnstructured.toList) := by
  unfold collectItem
  cases item.object.asUnstructured with
  | none => simpa using h
  | some u =>
    dsimp only [Option.toList_some]
    split_ifs with hseen
    exacts [h.skip hseen, h.append hseen]

theorem unstructuredItems_cons (item : Info) (items : List Info) :
    unstructuredItems (item :: items) = item.object.asUnstructured.toList ++ unstructuredItems items := by
  cases h : item.object.asUnstructured <;> simp [unstructuredItems, h]

theorem ParseState.Reads.foldl {s : ParseState} {pre : List Unstructured} (h : s.Reads pre)
    (items : List Info) : (items.foldl collectItem s).Reads (pre ++ unstructuredItems items) := by
  induction items generalizing s pre with
  | nil => simpa [unstructuredItems] using h
  | cons item items ih =>
    simpa only [List.foldl_cons, unstructuredItems_cons, List.append_assoc] using ih (h.collect item)

theorem parseManifestToObjects_reads {result : Result} {objects : List Unstructured}
    (h : parseManifestToObjects result = .ok objects) :
    ∃ items, result.infos = .ok items ∧ ∃ s : ParseState, s.Reads (unstructuredItems items) ∧ s.objects = objects := by
  obtain ⟨items, hinfos, rfl⟩ := parseManifestToObjects_ok h
  exact ⟨items, hinfos, _, by simpa using ParseState.reads_nil.foldl items, rfl⟩

theorem parseManifestToObjects_first_of_each_id {result : Result} {objects : List Unstructured}
    (h : parseManifestToObjects result = .ok objects) :
    ∃ items, result.infos = .ok items ∧ objects.Sublist (unstructuredItems items) ∧
      (objects.map getID).Nodup ∧
        ∀ o, o ∈ objects ↔ (unstructuredItems items).find? (fun u => getID u == getID o) = some o := by
  obtain ⟨items, hinfos, s, hreads, rfl⟩ := parseManifestToObjects_reads h
  exact ⟨items, hinfos, hreads.sublist, hreads.nodup, hreads.mem_objects⟩

def deploymentItem (object : String) : Unstructured :=
  ⟨"kcp-system", "template-operator", ⟨"apps", "v1", "Deployment"⟩, object⟩

def duplicateManifest : Result :=
  ⟨none, .ok [⟨.unstructured (deploymentItem "replicas: 1")⟩, ⟨.typed "Secret"⟩,
    ⟨.unstructured (deploymentItem "replicas: 2")⟩]⟩

theorem parseManifestToObjects_first_of_each_id_duplicate :
    parseManifestToObjects duplicateManifest = .ok [deploymentItem "replicas: 1"] ∧
      ∃ items, duplicateManifest.infos = .ok items ∧
        [deploymentItem "replicas: 1"].Sublist (unstructuredItems items) ∧
        ([deploymentItem "replicas: 1"].map getID).Nodup ∧
        ∀ o, o ∈ [deploymentItem "replicas: 1"] ↔
          (unstructuredItems items).find? (fun u => getID u == getID o) = some o :=
  have h : parseManifestToObjects duplicateManifest = .ok [deploymentItem "replicas: 1"] := by decide
  ⟨h, parseManifestToObjects_first_of_each_id h⟩

theorem ParseState.Reads.objects_eq {s : ParseState} {pre : List Unstructured} (h : s.Reads pre)
    (hpre : (pre.map getID).Nodup) : s.objects = pre := by
  have hsub : pre ⊆ s.objects := fun o ho => (h.mem_objects o).mpr <| by
    have hsome : (pre.find? fun u => getID u == getID o).isSome :=
      List.find?_isSome.mpr ⟨o, ho, beq_self_eq_true _⟩
    obtain ⟨x, hx⟩ := Option.isSome_iff_exists.mp hsome
    have hid : getID x = getID o := by simpa using List.find?_some hx
    rwa [List.inj_on_of_nodup_map hpre (List.mem_of_find?_eq_some hx) ho hid] at hx
  exact h.sublist.eq_of_length (le_antisymm h.sublist.length_le
    ((List.subperm_of_subset (hpre.of_map getID) hsub).length_le))

theorem parseManifestToObjects_idempotent {result : Result} {objects : List Unstructured}
    (h : parseManifestToObjects result = .ok objects) :
    parseManifestToObjects ⟨none, .ok (objects.map fun o => ⟨.unstructured o⟩)⟩ = .ok objects := by
  obtain ⟨items, -, s, hreads, rfl⟩ := parseManifestToObjects_reads h
  have hitems : unstructuredItems (s.objects.map fun o => ⟨.unstructured o⟩) = s.objects := by
    simp [unstructuredItems, List.filterMap_map, Function.comp_def, RuntimeObject.asUnstructured]
  have hreads' := ParseState.reads_nil.foldl (s.objects.map fun o => ⟨.unstructured o⟩)
  rw [List.nil_append, hitems] at hreads'
  simp only [parseManifestToObjects, hreads'.objects_eq hreads.nodup]

theorem parseManifestToObjects_idempotent_duplicate :
    parseManifestToObjects duplicateManifest = .ok [deploymentItem "replicas: 1"] ∧
      parseManifestToObjects ⟨none, .ok ([deploymentItem "replicas: 1"].map fun o => ⟨.unstructured o⟩)⟩ =
        .ok [deploymentItem "replicas: 1"] :=
  have h : parseManifestToObjects duplicateManifest = .ok [deploymentItem "replicas: 1"] := by decide
  ⟨h, parseManifestToObjects_idempotent h⟩

def Unstructured.SlashFree (item : Unstructured) : Prop :=
  ∀ part ∈ [item.ns, item.name, item.groupVersionKind.group, item.groupVersionKind.version,
    item.groupVersionKind.kind], '/' ∉ part.data

instance Unstructured.instDecidableSlashFree (item : Unstructured) : Decidable item.SlashFree :=
  inferInstanceAs (Decidable (∀ part ∈ _, _))

def Unstructured.sameResource (item other : Unstructured) : Bool :=
  other.ns == item.ns && other.name == item.name && other.groupVersionKind == item.groupVersionKind

theorem getID_data (item : Unstructured) :
    (getID item).data = ['/'].intercalate [item.ns.data, item.name.data, item.groupVersionKind.group.data,
      item.groupVersionKind.version.data, item.groupVersionKind.kind.data] := by
  simp [getID, String.intercalate, String.intercalate.go, List.intercalate]

theorem getID_splitOn {item : Unstructured} (h : item.SlashFree) :
    (getID item).data.splitOn '/' = [item.ns.data, item.name.data, item.groupVersionKind.group.data,
      item.groupVersionKind.version.data, item.groupVersionKind.kind.data] := by
  rw [getID_data]
  exact List.splitOn_intercalate _ '/' (by simpa [Unstructured.SlashFree] using h) (by simp)

theorem getID_split {item : Unstructured} (h : item.SlashFree) :
    (getID item).split (· = '/') = [item.ns, item.name, item.groupVersionKind.group,
      item.groupVersionKind.version, item.groupVersionKind.kind] :=
  (String.split_of_valid _ _).trans ((congrArg (List.map String.mk) (getID_splitOn h)).trans rfl)

theorem getID_split_deployment :
    (deploymentItem "replicas: 1").SlashFree ∧
      (getID (deploymentItem "replicas: 1")).split (· = '/') =
        ["kcp-system", "template-operator", "apps", "v1", "Deployment"] :=
  have h : (deploymentItem "replicas: 1").SlashFree := by decide
  ⟨h, getID_split h⟩

theorem getID_eq_iff {item other : Unstructured} (h : item.SlashFree) (h' : other.SlashFree) :
    getID other = getID item ↔ item.sameResource other = true := by
  obtain ⟨ns, name, ⟨group, version, kind⟩, _⟩ := item
  obtain ⟨ns', name', ⟨group', version', kind'⟩, _⟩ := other
  constructor
  · intro hid
    have hparts := (getID_splitOn h').symm.trans (hid ▸ getID_splitOn h)
    simp only [List.cons.injEq, and_true] at hparts
    simp [Unstructured.sameResource, String.ext_iff, hparts]
  · simp only [Unstructured.sameResource, Bool.and_eq_true, beq_iff_eq, GroupVersionKind.mk.injEq]
    rintro ⟨⟨rfl, rfl⟩, rfl, rfl, rfl⟩
    rfl

theorem find?_congr_of_mem {l : List Unstructured} {p q : Unstructured → Bool}
    (h : ∀ x ∈ l, p x = q x) : l.find? p = l.find? q := by
  induction l with
  | nil => rfl
  | cons x l ih =>
    simp only [List.find?_cons, h x (List.mem_cons_self _ _), ih fun y hy => h y (List.mem_cons_of_mem _ hy)]

theorem parseManifestToObjects_keeps_first_of_each_resource {result : Result} {items : List Info}
    {objects : List Unstructured} (h : parseManifestToObjects result = .ok objects)
    (hinfos : result.infos = .ok items) (hslash : ∀ u ∈ unstructuredItems items, u.SlashFree) :
    objects.Pairwise (fun o o' => o.sameResource o' = false) ∧
      ∀ u ∈ unstructuredItems items,
        (u ∈ objects ↔ (unstructuredItems items).find? u.sameResource = some u) := by
  obtain ⟨items', hinfos', s, hreads, rfl⟩ := parseManifestToObjects_reads h
  obtain rfl : items = items' := Except.ok.inj (hinfos.symm.trans hinfos')
  refine ⟨?_, fun u hu => ?_⟩
  · refine (List.pairwise_map.mp hreads.nodup).imp_of_mem fun ho ho' hne => ?_
    rw [← Bool.not_eq_true, ← getID_eq_iff (hslash _ (hreads.sublist.subset ho)) (hslash _ (hreads.sublist.subset ho'))]
    exact Ne.symm hne
  · rw [hreads.mem_objects, find?_congr_of_mem fun v hv => ?_]
    rw [Bool.eq_iff_iff, beq_iff_eq, getID_eq_iff (hslash u hu) (hslash v hv)]

theorem parseManifestToObjects_keeps_first_of_each_resource_duplicate :
    parseManifestToObjects duplicateManifest = .ok [deploymentItem "replicas: 1"] ∧
      duplicateManifest.infos = .ok [⟨.unstructured (deploymentItem "replicas: 1")⟩, ⟨.typed "Secret"⟩,
        ⟨.unstructured (deploymentItem "replicas: 2")⟩] ∧
      (∀ u ∈ unstructuredItems [⟨.unstructured (deploymentItem "replicas: 1")⟩, ⟨.typed "Secret"⟩,
        ⟨.unstructured (deploymentItem "replicas: 2")⟩], u.SlashFree) ∧
      [deploymentItem "replicas: 1"].Pairwise (fun o o' => o.sameResource o' = false) ∧
      ∀ u ∈ unstructuredItems [⟨.unstructured (deploymentItem "replicas: 1")⟩, ⟨.typed "Secret"⟩,
        ⟨.unstructured (deploymentItem "replicas: 2")⟩],
        (u ∈ [deploymentItem "replicas: 1"] ↔ (unstructuredItems [⟨.unstructured (deploymentItem "replicas: 1")⟩,
          ⟨.typed "Secret"⟩, ⟨.unstructured (deploymentItem "replicas: 2")⟩]).find? u.sameResource = some u) :=
  have h : parseManifestToObjects duplicateManifest = .ok [deploymentItem "replicas: 1"] := by decide
  have hslash : ∀ u ∈ unstructuredItems [⟨.unstructured (deploymentItem "replicas: 1")⟩, ⟨.typed "Secret"⟩,
      ⟨.unstructured (deploymentItem "replicas: 2")⟩], u.SlashFree := by decide
  ⟨h, rfl, hslash, parseManifestToObjects_keeps_first_of_each_resource h rfl hslash⟩

end KymaOperator.Manifests
