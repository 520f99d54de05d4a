import Mathlib.Data.List.AList

namespace KymaOperator

instance instDecidableEqExcept {ε α : Type} [DecidableEq ε] [DecidableEq α] : DecidableEq (Except ε α)
  | .error e, .error e' => decidable_of_iff (e = e') ⟨congrArg _, Except.error.inj⟩
  | .ok a, .ok a' => decidable_of_iff (a = a') ⟨congrArg _, Except.ok.inj⟩
  | .error _, .ok _ => isFalse fun h => Except.noConfusion h
  | .ok _, .error _ => isFalse fun h => Except.noConfusion h

def goStrings (xs : List String) : String := "[" ++ " ".intercalate xs ++ "]"

structure GroupVersionKind where
  group : String
  version : String
  kind : String
  deriving DecidableEq, Repr

structure Descriptor where
  name : String
  version : String
  configuredVersion : String
  deriving DecidableEq, Repr

def Descriptor.setGroupVersionKind (d : Descriptor) (kind : GroupVersionKind) : Descriptor :=
  { d with version := kind.version }

def Descriptor.groupVersionKind (d : Descriptor) : GroupVersionKind :=
  ⟨"ocm.kyma-project.io", d.configuredVersion, "Descriptor"⟩

structure ModuleTemplate where
  name : String
  ns : String
  generation : Int
  moduleNameLabel : String
  internal : Bool
  beta : Bool
  channel : String
  mandatory : Bool
  descriptor : Except String Descriptor
  deriving DecidableEq, Repr

def ModuleTemplate.getComponentDescriptorCacheKey (t : ModuleTemplate) : Except String String :=
  t.descriptor.map fun d => t.channel ++ ":" ++ d.name ++ ":" ++ d.version

@[simp]
theorem Descriptor.setGroupVersionKind_version (d : Descriptor) (kind : GroupVersionKind) :
    (d.setGroupVersionKind kind).version = kind.version := rfl

@[simp]
theorem Descriptor.groupVersionKind_setGroupVersionKind (d : Descriptor) (kind : GroupVersionKind) :
    (d.setGroupVersionKind kind).groupVersionKind = d.groupVersionKind := rfl

def operatorDescriptor : Descriptor := ⟨"kyma-project.io/module/template-operator", "1.0.0", "v2"⟩

def descriptorKind : GroupVersionKind := ⟨"operator.kyma-project.io", "v1beta1", "Descriptor"⟩

def regularTemplateOf (descriptor : Descriptor) : ModuleTemplate :=
  { name := "template-operator-regular", ns := "kcp-system", generation := 1,
    moduleNameLabel := "template-operator", internal := false, beta := false, channel := "regular",
    mandatory := false, descriptor := .ok descriptor }

theorem setGroupVersionKind_overwrites_component_version :
    (operatorDescriptor.setGroupVersionKind descriptorKind).groupVersionKind.version = "v2" ∧
      (operatorDescriptor.setGroupVersionKind descriptorKind).version = "v1beta1" ∧
      (regularTemplateOf operatorDescriptor).getComponentDescriptorCacheKey =
        .ok "regular:kyma-project.io/module/template-operator:1.0.0" ∧
      (regularTemplateOf (operatorDescriptor.setGroupVersionKind descriptorKind)).getComponentDescriptorCacheKey =
        .ok "regular:kyma-project.io/module/template-operator:v1beta1" := by
  decide

def rangeUpdate {V : Type} (f : V → V) (m : AList fun _ : String => V) :
    AList fun _ : String => V :=
  ⟨m.entries.map fun e => ⟨e.1, f e.2⟩, by
    simpa [List.NodupKeys, List.keys, Function.comp_def] using m.nodupKeys⟩

@[simp]
theorem lookup_rangeUpdate {V : Type} (f : V → V) (m : AList fun _ : String => V) (k : String) :
    (rangeUpdate f m).lookup k = (m.lookup k).map f := by
  unfold rangeUpdate AList.lookup
  exact @List.dlookup_map₂ String _ (fun _ => V) (fun _ => V) m.entries (fun _ => f) k

theorem lookup_foldl_insert {α V : Type} (key : α → String) (value : α → V) (l : List α)
    (m : AList fun _ : String => V) (k : String) :
    (l.foldl (fun m a => m.insert (key a) (value a)) m).lookup k =
      ((l.reverse.find? (key · == k)).map value).or (m.lookup k) := by
  induction l generalizing m with
  | nil => rfl
  | cons a l ih =>
    rw [List.foldl_cons, ih, List.reverse_cons, List.find?_append]
    by_cases hk : key a = k
    · subst hk
      cases l.reverse.find? (key · == key a) <;> simp
    · cases l.reverse.find? (key · == k) <;> simp [hk, AList.lookup_insert_ne (Ne.symm hk)]

section Loop

variable {ε : Type} (identify : ModuleTemplate → Except ε Bool)

def filterTemplates : List ModuleTemplate → Except ε (List ModuleTemplate)
  | [] => .ok []
  | template :: items =>
    match identify template, filterTemplates items with
    | .error err, _ => .error err
    | .ok _, .error err => .error err
    | .ok matched, .ok rest => .ok (if matched then template :: rest else rest)

theorem filterTemplates_eq_filter {p : ModuleTemplate → Bool} {items : List ModuleTemplate}
    (h : ∀ template ∈ items, identify template = .ok (p template)) :
    filterTemplates identify items = .ok (items.filter p) := by
  induction items with
  | nil => rfl
  | cons template items ih =>
    rw [filterTemplates, h template (List.mem_cons_self _ _),
      ih fun t ht => h t (List.mem_cons_of_mem _ ht), List.filter_cons]

theorem filterTemplates_error {items : List ModuleTemplate} {err : ε}
    (h : filterTemplates identify items = .error err) : ∃ template ∈ items, identify template = .error err := by
  induction items with
  | nil => simp [filterTemplates] at h
  | cons template items ih =>
    simp only [filterTemplates] at h
    split at h
    · obtain rfl := Except.error.inj h
      exact ⟨template, List.mem_cons_self _ _, ‹_›⟩
    · obtain rfl := Except.error.inj h
      obtain ⟨t, ht, hid⟩ := ih ‹_›
      exact ⟨t, List.mem_cons_of_mem _ ht, hid⟩
    · simp at h

theorem filterTemplates_ok_mem {items filtered : List ModuleTemplate}
    (h : filterTemplates identify items = .ok filtered) {template : ModuleTemplate}
    (hmem : template ∈ filtered) : template ∈ items ∧ identify template = .ok true := by
  induction items generalizing filtered with
  | nil => cases h; simp at hmem
  | cons item items ih =>
    simp only [filterTemplates] at h
    split at h
    · cases h
    · cases h
    · rename_i matched rest hid hrest
      obtain rfl := Except.ok.inj h
      cases matched
      · exact (ih hrest hmem).imp (List.mem_cons_of_mem _) id
      · rcases List.mem_cons.mp hmem with rfl | hmem
        · exact ⟨List.mem_cons_self _ _, hid⟩
        · exact (ih hrest hmem).imp (List.mem_cons_of_mem _) id

theorem filterTemplates_insert_unmatched {X : ModuleTemplate} (hX : identify X = .ok false)
    (pre post : List ModuleTemplate) :
    filterTemplates identify (pre ++ X :: post) = filterTemplates identify (pre ++ post) := by
  induction pre with
  | nil =>
    simp only [List.nil_append, filterTemplates, hX]
    cases filterTemplates identify post <;> rfl
  | cons template pre ih => rw [List.cons_append, List.cons_append, filterTemplates, ih]; rfl

theorem filterTemplates_error_of_mem {X : ModuleTemplate} {err : ε} (hX : identify X = .error err)
    {items : List ModuleTemplate} (hmem : X ∈ items) :
    ∃ err', filterTemplates identify items = .error err' := by
  induction items with
  | nil => simp at hmem
  | cons template items ih =>
    simp only [filterTemplates]
    rcases List.mem_cons.mp hmem with rfl | hmem
    · simp [hX]
    · obtain ⟨err', h⟩ := ih hmem
      cases identify template <;> simp [h]

end Loop

structure Module where
  name : String
  channel : String
  remoteModuleTemplateRef : String
  deriving DecidableEq, Repr

structure AvailableModule extends Module where
  valid : Bool
  deriving DecidableEq, Repr

structure TrackingObject where
  generation : Int
  deriving DecidableEq, Repr

structure ModuleStatus where
  name : String
  fqdn : String
  channel : String
  version : String
  template : Option TrackingObject
  deriving DecidableEq, Repr

structure Kyma where
  channel : String
  modules : List Module
  availableModules : List AvailableModule
  statusModules : List ModuleStatus
  internal : Bool
  beta : Bool
  syncEnabled : Bool
  deriving DecidableEq, Repr

structure CachedDescriptorProvider where
  add : ModuleTemplate → Except String Unit
  getDescriptor : ModuleTemplate → Except String Descriptor

/-- Modelled from the spec: the descriptor cache memoises the deterministic decode of a
template's embedded descriptor, so `Add` and `GetDescriptor` answer as the decode does. -/
def CachedDescriptorProvider.decoding : CachedDescriptorProvider :=
  ⟨fun t => t.descriptor.map fun _ => (), fun t => t.descriptor⟩

structure Semver (Version : Type) where
  newVersion : String → Except String Version
  greaterThan : Version → Version → Bool
  toString : Version → String
  isValidVersionChange : Version → Version → Bool

def parseNumber (cs : List Char) : Option Nat :=
  if cs ≠ [] ∧ cs.all Char.isDigit then
    some (cs.foldl (fun n c => 10 * n + (c.toNat - '0'.toNat)) 0)
  else none

def releaseGreaterThan : Nat × Nat × Nat → Nat × Nat × Nat → Bool
  | (a, b, c), (a', b', c') => a' < a || (a' = a && (b' < b || (b' = b && c' < c)))

/-- Modelled from the spec: a stand-in for the Masterminds semver library on release versions
MAJOR.MINOR.PATCH only. It rejects forms the library accepts (a "v" prefix, fewer than three
parts, prerelease and build suffixes) and agrees with it on release versions; the lookup passes
take the version operations as a parameter. -/
def releaseSemver : Semver (Nat × Nat × Nat) where
  newVersion s := match (s.toList.splitOn '.').map parseNumber with
    | [some a, some b, some c] => .ok (a, b, c)
    | _ => .error "Invalid Semantic Version"
  greaterThan := releaseGreaterThan
  toString v := Nat.repr v.1 ++ "." ++ Nat.repr v.2.1 ++ "." ++ Nat.repr v.2.2
  isValidVersionChange newVersion oldVersion := !releaseGreaterThan oldVersion newVersion

end KymaOperator
