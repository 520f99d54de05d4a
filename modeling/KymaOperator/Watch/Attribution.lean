import KymaOperator.Watch.OwnerHandler

namespace KymaOperator.Watch

def Event.object : Event → Object
  | .create object => object
  | .update _ objectNew => objectNew
  | .delete object => object
  | .generic object => object

def Event.oldIfAny : Event → Option Object
  | .update objectOld _ => some objectOld
  | _ => none

def Event.withOwnerReferences (refs : List OwnerReference) : Event → Event
  | .create object => .create { object with ownerReferences := refs }
  | .update objectOld objectNew => .update objectOld { objectNew with ownerReferences := refs }
  | .delete object => .delete { object with ownerReferences := refs }
  | .generic object => .generic { object with ownerReferences := refs }

@[simp]
theorem Event.withOwnerReferences_object (refs : List OwnerReference) (event : Event) :
    (event.withOwnerReferences refs).object = { event.object with ownerReferences := refs } := by
  cases event <;> rfl

@[simp]
theorem Event.withOwnerReferences_oldIfAny (refs : List OwnerReference) (event : Event) :
    (event.withOwnerReferences refs).oldIfAny = event.oldIfAny := by
  cases event <;> rfl

theorem perm_eq_of_length_le_one {l l' : List OwnerReference} (hp : l'.Perm l) (h : l.length ≤ 1) :
    l' = l := by
  match l, h with
  | [], _ => exact List.perm_nil.mp hp
  | [_], _ => exact List.perm_singleton.mp hp

theorem getControllerOf_perm {object : Object} {refs : List OwnerReference}
    (hperm : refs.Perm object.ownerReferences)
    (hctl : (object.ownerReferences.filter (·.controller)).length ≤ 1) :
    getControllerOf { object with ownerReferences := refs } = getControllerOf object := by
  unfold getControllerOf
  rw [← List.filter_head?, ← List.filter_head?, perm_eq_of_length_le_one (hperm.filter _) hctl]

namespace RestrictedEnqueueRequestForOwner

variable (e : RestrictedEnqueueRequestForOwner)

theorem getOwnersReferences_of_controller {object : Object} {ref : OwnerReference}
    (hc : e.isController = true) (hctl : getControllerOf object = some ref) :
    e.getOwnersReferences object = [ref] := by
  simp [getOwnersReferences, hc, hctl]

theorem handle_eq_enqueue (event : Event) :
    e.handle event = e.enqueue event.oldIfAny event.object := by
  cases event <;> rfl

theorem handle_perm_invariant (event : Event) {refs : List OwnerReference}
    (hperm : refs.Perm event.object.ownerReferences)
    (hctl : (event.object.ownerReferences.filter (·.controller)).length ≤ 1)
    (hparse : e.isController = true ∨ ∀ ref ∈ event.object.ownerReferences, parsable ref = true)
    (r : Request) :
    r ∈ e.handle (event.withOwnerReferences refs) ↔ r ∈ e.handle event := by
  rw [handle_eq_enqueue, handle_eq_enqueue, mem_enqueue, mem_enqueue,
    Event.withOwnerReferences_object, Event.withOwnerReferences_oldIfAny]
  cases hc : e.isController
  · have hall := hparse.resolve_left (by simp [hc])
    simp only [getOwnersReferences, hc, Bool.not_false, if_true]
    rw [List.takeWhile_eq_self_iff.mpr fun ref href => hall ref (hperm.subset href),
      List.takeWhile_eq_self_iff.mpr hall]
    exact exists_congr fun ref => and_congr_left' hperm.mem_iff
  · simp only [getOwnersReferences, hc, Bool.not_true, getControllerOf_perm hperm hctl]
    rfl

theorem getOwnersReferences_eq (object : Object) :
    e.getOwnersReferences object =
      if e.isController then (getControllerOf object).toList else object.ownerReferences := by
  unfold getOwnersReferences
  cases e.isController <;> cases getControllerOf object <;> rfl

theorem handle_attributes_each_matching_owner_once {event : Event} {object : Object}
    (hevent : event = .create object ∨ event = .delete object ∨ event = .generic object)
    (hparse : ∀ ref ∈ (if e.isController then (getControllerOf object).toList else object.ownerReferences),
      ∃ refGV, parseGroupVersion ref.apiVersion = .ok refGV) :
    (∀ r, r ∈ e.handle event ↔
      ∃ ref ∈ (if e.isController then (getControllerOf object).toList else object.ownerReferences),
        ∃ refGV scope, parseGroupVersion ref.apiVersion = .ok refGV ∧ ref.kind = e.groupKind.kind ∧
          refGV.group = e.groupKind.group ∧ e.mapper e.groupKind refGV.version = some scope ∧
            r = ⟨ref.name, if scope ≠ .root then object.ns else ""⟩) ∧
      (e.handle event).Nodup := by
  have henqueue : e.handle event = e.enqueue none object := by
    rcases hevent with rfl | rfl | rfl <;> rfl
  rw [← getOwnersReferences_eq] at hparse ⊢
  rw [henqueue]
  refine ⟨fun r => ?_, e.enqueue_nodup none object⟩
  rw [mem_enqueue, List.takeWhile_eq_self_iff.mpr fun ref href =>
    parsable_of_ok (hparse ref href).choose_spec]
  refine exists_congr fun ref => and_congr_right fun _ => ?_
  cases hgv : parseGroupVersion ref.apiVersion with
  | error err => simp [refRequest, hgv]
  | ok refGV => simp [refRequest, hgv, e.requestOf_eq_some]

theorem update_enqueues_iff_state_read_differs (objectOld objectNew : Object) {ref : OwnerReference}
    {refGV : GroupVersion} {scope : RESTScopeName}
    (hreached : ref ∈ (e.getOwnersReferences objectNew).takeWhile parsable)
    (hgv : parseGroupVersion ref.apiVersion = .ok refGV) (hkind : ref.kind = e.groupKind.kind)
    (hgroup : refGV.group = e.groupKind.group)
    (hscope : e.mapper e.groupKind refGV.version = some scope) :
    (⟨ref.name, if scope ≠ .root then objectNew.ns else ""⟩ : Request) ∈ e.update objectOld objectNew ↔
      (nestedString objectOld.statusState).1 ≠ (nestedString objectNew.statusState).1 := by
  rw [update, mem_enqueue]
  constructor
  · rintro ⟨ref', -, h⟩
    unfold refRequest at h
    split at h
    · exact e.requestOf_update h
    · cases h
  · intro hs
    refine ⟨ref, hreached, ?_⟩
    simp [refRequest, hgv, e.requestOf_of_match hkind hgroup hscope, hs]

theorem mem_getOwnersReferences {object : Object} {ref : OwnerReference}
    (h : ref ∈ e.getOwnersReferences object) :
    ref ∈ object.ownerReferences ∧ (e.isController = true → ref.controller = true) := by
  unfold getOwnersReferences at h
  cases hc : e.isController
  · simpa [hc] using h
  · cases hctl : getControllerOf object with
    | none => simp [hc, hctl] at h
    | some ctl =>
      obtain rfl : ref = ctl := by simpa [hc, hctl] using h
      exact ⟨List.mem_of_find?_eq_some hctl, fun _ => by simpa using List.find?_some hctl⟩

theorem refRequest_eq_some {oldIfAny : Option Object} {object : Object} {ref : OwnerReference} {r : Request} :
    e.refRequest oldIfAny object ref = some r ↔
      ∃ refGV, parseGroupVersion ref.apiVersion = .ok refGV ∧ e.requestOf oldIfAny object ref refGV = some r := by
  unfold refRequest
  cases parseGroupVersion ref.apiVersion <;> simp

theorem handle_requests_name_matching_owners {event : Event} {r : Request} (hr : r ∈ e.handle event) :
    ∃ ref ∈ event.object.ownerReferences, (e.isController = true → ref.controller = true) ∧
      ref.kind = e.groupKind.kind ∧
      (∃ refGV, parseGroupVersion ref.apiVersion = .ok refGV ∧ refGV.group = e.groupKind.group) ∧
      r.name = ref.name ∧ (r.ns = event.object.ns ∨ r.ns = "") := by
  rw [handle_eq_enqueue, mem_enqueue] at hr
  obtain ⟨ref, href, hreq⟩ := hr
  obtain ⟨hmem, hctl⟩ := e.mem_getOwnersReferences (List.takeWhile_subset _ href)
  obtain ⟨refGV, hgv, hreq⟩ := e.refRequest_eq_some.mp hreq
  obtain ⟨hkind, hgroup, scope, -, -, rfl⟩ := e.requestOf_eq_some.mp hreq
  exact ⟨ref, hmem, hctl, hkind, ⟨refGV, hgv, hgroup⟩, rfl, by dsimp only; split_ifs <;> simp⟩

theorem handle_eq_nil_of_kind_mismatch {event : Event}
    (hkind : ∀ ref ∈ e.getOwnersReferences event.object, ref.kind ≠ e.groupKind.kind) :
    e.handle event = [] := by
  refine List.eq_nil_iff_forall_not_mem.mpr fun r hr => ?_
  rw [handle_eq_enqueue, mem_enqueue] at hr
  obtain ⟨ref, href, hreq⟩ := hr
  obtain ⟨refGV, -, hreq⟩ := e.refRequest_eq_some.mp hreq
  exact hkind ref (List.takeWhile_subset _ href) (e.requestOf_eq_some.mp hreq).1

theorem handle_length_le_one_of_controller (hc : e.isController = true) (event : Event) :
    (e.handle event).length ≤ 1 := by
  rw [handle_eq_enqueue]
  have hsub : e.enqueue event.oldIfAny event.object ⊆
      ((getControllerOf event.object).bind (e.refRequest event.oldIfAny event.object)).toList := by
    intro r hr
    obtain ⟨ref, href, hreq⟩ := (e.mem_enqueue _ _ r).mp hr
    have hctl : getControllerOf event.object = some ref := by
      have href' := List.takeWhile_subset _ href
      unfold getOwnersReferences at href'
      cases hctl : getControllerOf event.object <;> simp_all
    simp [hctl, hreq]
  refine ((List.subperm_of_subset (e.enqueue_nodup _ _) hsub).length_le).trans ?_
  cases (getControllerOf event.object).bind (e.refRequest event.oldIfAny event.object) <;> simp

theorem update_subset_create (objectOld objectNew : Object) : e.update objectOld objectNew ⊆ e.create objectNew := by
  intro r hr
  rw [update, mem_enqueue] at hr
  obtain ⟨ref, href, hreq⟩ := hr
  obtain ⟨refGV, hgv, hreq⟩ := e.refRequest_eq_some.mp hreq
  obtain ⟨hkind, hgroup, scope, hscope, -, rfl⟩ := e.requestOf_eq_some.mp hreq
  rw [create, mem_enqueue]
  exact ⟨ref, href, e.refRequest_eq_some.mpr ⟨refGV, hgv,
    e.requestOf_eq_some.mpr ⟨hkind, hgroup, scope, hscope, fun _ h => Option.noConfusion h, rfl⟩⟩⟩

end RestrictedEnqueueRequestForOwner

def kymaGroupKind : GroupKind := ⟨"operator.kyma-project.io", "Kyma"⟩

def kymaMapper : GroupKind → String → Option RESTScopeName := fun _ _ => some .namespaced

def kymaHandler (isController : Bool) : RestrictedEnqueueRequestForOwner :=
  ⟨isController, kymaGroupKind, kymaMapper⟩

def kymaRef : OwnerReference := ⟨"operator.kyma-project.io/v1beta2", "Kyma", "kyma-sample", true⟩

def malformedRef : OwnerReference :=
  ⟨"operator.kyma-project.io/v1beta2/v1", "Kyma", "kyma-other", false⟩

def manifestObject (generation : Int) (refs : List OwnerReference) (state : StateField) : Object :=
  ⟨"template-operator", "kcp-system", generation, refs, state, .typed⟩

theorem handle_depends_on_reference_order :
    [malformedRef, kymaRef].Perm [kymaRef, malformedRef] ∧
      ([kymaRef, malformedRef].filter (·.controller)).length ≤ 1 ∧
      (kymaHandler false).handle (.create (manifestObject 1 [kymaRef, malformedRef] .absent)) =
        [⟨"kyma-sample", "kcp-system"⟩] ∧
      (kymaHandler false).handle (.create (manifestObject 1 [malformedRef, kymaRef] .absent)) = [] := by
  decide

theorem handle_perm_invariant_controller :
    [malformedRef, kymaRef].Perm (manifestObject 1 [kymaRef, malformedRef] .absent).ownerReferences ∧
      ((manifestObject 1 [kymaRef, malformedRef] .absent).ownerReferences.filter (·.controller)).length ≤ 1 ∧
      (kymaHandler true).isController = true ∧
      ∀ r, r ∈ (kymaHandler true).handle
          ((Event.create (manifestObject 1 [kymaRef, malformedRef] .absent)).withOwnerReferences
            [malformedRef, kymaRef]) ↔
        r ∈ (kymaHandler true).handle (.create (manifestObject 1 [kymaRef, malformedRef] .absent)) :=
  ⟨by decide, by decide, rfl, (kymaHandler true).handle_perm_invariant
    (.create (manifestObject 1 [kymaRef, malformedRef] .absent)) (by decide) (by decide) (.inl rfl)⟩

def templateRef : OwnerReference :=
  ⟨"operator.kyma-project.io/v1beta2", "ModuleTemplate", "template-operator-regular", false⟩

def sharedOwnerRefs : List OwnerReference :=
  [kymaRef, templateRef, { kymaRef with controller := false }]

theorem handle_length_le_one_of_controller_shared :
    (kymaHandler true).isController = true ∧
      ((kymaHandler true).handle (.create (manifestObject 1 sharedOwnerRefs .absent))).length ≤ 1 :=
  ⟨rfl, (kymaHandler true).handle_length_le_one_of_controller rfl _⟩

theorem handle_attributes_each_matching_owner_once_shared :
    (∀ ref ∈ (if (kymaHandler false).isController then
          (getControllerOf (manifestObject 1 sharedOwnerRefs .absent)).toList
        else (manifestObject 1 sharedOwnerRefs .absent).ownerReferences),
      ∃ refGV, parseGroupVersion ref.apiVersion = .ok refGV) ∧
      (kymaHandler false).handle (.create (manifestObject 1 sharedOwnerRefs .absent)) =
        [⟨"kyma-sample", "kcp-system"⟩] ∧
      ((kymaHandler false).handle (.create (manifestObject 1 sharedOwnerRefs .absent))).Nodup :=
  have hparse : ∀ ref ∈ (if (kymaHandler false).isController then
        (getControllerOf (manifestObject 1 sharedOwnerRefs .absent)).toList
      else (manifestObject 1 sharedOwnerRefs .absent).ownerReferences),
      ∃ refGV, parseGroupVersion ref.apiVersion = .ok refGV := by
    intro ref href
    simp only [kymaHandler, manifestObject, sharedOwnerRefs, Bool.false_eq_true, if_false, List.mem_cons,
      List.mem_singleton, List.not_mem_nil, or_false] at href
    rcases href with rfl | rfl | rfl <;> exact ⟨⟨"operator.kyma-project.io", "v1beta2"⟩, by decide⟩
  ⟨hparse, by decide,
    ((kymaHandler false).handle_attributes_each_matching_owner_once (.inl rfl) hparse).2⟩

theorem handle_requests_name_matching_owners_shared :
    (⟨"kyma-sample", "kcp-system"⟩ : Request) ∈
        (kymaHandler false).handle (.create (manifestObject 1 sharedOwnerRefs .absent)) ∧
      ∃ ref ∈ (Event.create (manifestObject 1 sharedOwnerRefs .absent)).object.ownerReferences,
        ((kymaHandler false).isController = true → ref.controller = true) ∧
        ref.kind = (kymaHandler false).groupKind.kind ∧
        (∃ refGV, parseGroupVersion ref.apiVersion = .ok refGV ∧
          refGV.group = (kymaHandler false).groupKind.group) ∧
        (⟨"kyma-sample", "kcp-system"⟩ : Request).name = ref.name ∧
        ((⟨"kyma-sample", "kcp-system"⟩ : Request).ns =
            (Event.create (manifestObject 1 sharedOwnerRefs .absent)).object.ns ∨
          (⟨"kyma-sample", "kcp-system"⟩ : Request).ns = "") :=
  have hr : (⟨"kyma-sample", "kcp-system"⟩ : Request) ∈
      (kymaHandler false).handle (.create (manifestObject 1 sharedOwnerRefs .absent)) := by
    decide
  ⟨hr, (kymaHandler false).handle_requests_name_matching_owners hr⟩

theorem update_drops_absent_states :
    parseGroupVersion kymaRef.apiVersion = .ok ⟨"operator.kyma-project.io", "v1beta2"⟩ ∧
      kymaRef.kind = kymaGroupKind.kind ∧
      (kymaHandler true).mapper kymaGroupKind "v1beta2" = some .namespaced ∧
      (kymaHandler true).update (manifestObject 1 [kymaRef] .absent)
        (manifestObject 1 [kymaRef] .absent) = [] := by
  decide

theorem update_enqueues_iff_state_read_differs_processing :
    kymaRef ∈ ((kymaHandler true).getOwnersReferences
        (manifestObject 1 [kymaRef] (.string "Ready"))).takeWhile
        RestrictedEnqueueRequestForOwner.parsable ∧
      parseGroupVersion kymaRef.apiVersion = .ok ⟨"operator.kyma-project.io", "v1beta2"⟩ ∧
      ((⟨"kyma-sample", "kcp-system"⟩ : Request) ∈ (kymaHandler true).update
          (manifestObject 1 [kymaRef] (.string "Processing")) (manifestObject 1 [kymaRef] (.string "Ready")) ↔
        (nestedString (StateField.string "Processing")).1 ≠ (nestedString (StateField.string "Ready")).1) :=
  ⟨by decide, by decide, @RestrictedEnqueueRequestForOwner.update_enqueues_iff_state_read_differs
    (kymaHandler true) (manifestObject 1 [kymaRef] (.string "Processing"))
    (manifestObject 1 [kymaRef] (.string "Ready")) kymaRef ⟨"operator.kyma-project.io", "v1beta2"⟩
    .namespaced (by decide) (by decide) rfl rfl rfl⟩

end KymaOperator.Watch
