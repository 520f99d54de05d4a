import KymaOperator.Watch.Attribution

namespace KymaOperator.Controllers

open Watch

/-- Modelled from the spec: a controller-runtime predicate gives one verdict per event kind. -/
structure Predicate where
  create : Object → Bool
  update : Object → Object → Bool
  delete : Object → Bool
  generic : Object → Bool

def Predicate.admits (p : Predicate) : Event → Bool
  | .create object => p.create object
  | .update objectOld objectNew => p.update objectOld objectNew
  | .delete object => p.delete object
  | .generic object => p.generic object

/-- Modelled from the spec: GenerationChangedPredicate passes an update iff the generations
differ, and every other event. -/
def generationChangedPredicate : Predicate :=
  ⟨fun _ => true, fun objectOld objectNew => objectNew.generation != objectOld.generation,
    fun _ => true, fun _ => true⟩

@[simp]
theorem generationChangedPredicate_admits (event : Event) :
    generationChangedPredicate.admits event = match event with
      | .update objectOld objectNew => objectNew.generation != objectOld.generation
      | _ => true := by
  cases event <;> rfl

inductive Source where
  | kyma
  | moduleTemplate
  | secret
  | manifest
  | eventChannel
  deriving DecidableEq, Repr

structure WatchInput where
  source : Source
  handler : Event → List Request
  predicates : List Predicate

/-- Modelled from the spec: the builder keeps the controller's event filters apart and applies
them, before a watch's own predicates, to every watch when the controller is completed. -/
structure Builder where
  globalPredicates : List Predicate
  watchesInput : List WatchInput

/-- Modelled from the spec: EnqueueRequestForObject enqueues the event's (new) object itself. -/
def enqueueRequestForObject (event : Event) : List Request :=
  [⟨event.object.name, event.object.ns⟩]

/-- Modelled from the spec: EnqueueRequestsFromMapFunc maps both objects of an update. -/
def enqueueRequestsFromMapFunc (fn : Object → List Request) : Event → List Request
  | .update objectOld objectNew => fn objectOld ++ fn objectNew
  | event => fn event.object

def newControllerManagedBy : Builder := ⟨[], []⟩

def Builder.forInput (b : Builder) (source : Source) : Builder :=
  { b with watchesInput := b.watchesInput ++ [⟨source, enqueueRequestForObject, []⟩] }

def Builder.withEventFilter (b : Builder) (p : Predicate) : Builder :=
  { b with globalPredicates := b.globalPredicates ++ [p] }

def Builder.watches (b : Builder) (source : Source) (handler : Event → List Request)
    (predicates : List Predicate) : Builder :=
  { b with watchesInput := b.watchesInput ++ [⟨source, handler, predicates⟩] }

/-- Modelled from the spec: in the two-argument form setup.go calls, a raw source is one more
watch with no predicates of its own, so the controller's event filters apply to it as well. -/
def Builder.watchesRawSource (b : Builder) (source : Source) (handler : Event → List Request) :
    Builder :=
  b.watches source handler []

def Builder.dispatch (b : Builder) (source : Source) (event : Event) : List Request :=
  b.watchesInput.flatMap fun w =>
    if w.source = source ∧ (b.globalPredicates ++ w.predicates).all (·.admits event) then
      w.handler event
    else []

def watchEventChannel (controllerBuilder : Builder) : Builder :=
  controllerBuilder.watchesRawSource .eventChannel fun
    | .generic object =>
      match object.owner with
      | .objectKey ownerObjectKey => [ownerObjectKey]
      | _ => []
    | _ => []

def setupWithManager (templateChangeHandler : Object → List Request) : Builder :=
  let controllerBuilder := ((newControllerManagedBy.forInput .kyma).withEventFilter
    generationChangedPredicate).watches .moduleTemplate
      (enqueueRequestsFromMapFunc templateChangeHandler) [generationChangedPredicate]
  let controllerBuilder := controllerBuilder.watches .secret (fun _ => []) []
  let controllerBuilder := controllerBuilder.watches .manifest
    (RestrictedEnqueueRequestForOwner.handle { isController := true }) []
  watchEventChannel controllerBuilder

theorem mem_dispatch (b : Builder) (source : Source) (event : Event) (r : Request) :
    r ∈ b.dispatch source event ↔ ∃ w ∈ b.watchesInput, w.source = source ∧
      (∀ p ∈ b.globalPredicates, p.admits event = true) ∧ (∀ p ∈ w.predicates, p.admits event = true) ∧
        r ∈ w.handler event := by
  simp [Builder.dispatch, and_assoc]

theorem dispatch_eq_nil_of_filtered {b : Builder} {p : Predicate} (hp : p ∈ b.globalPredicates)
    {event : Event} (h : p.admits event = false) (source : Source) : b.dispatch source event = [] := by
  refine List.eq_nil_iff_forall_not_mem.mpr fun r hr => ?_
  obtain ⟨w, -, -, hall, -⟩ := (mem_dispatch b source event r).mp hr
  simp [hall p hp] at h

section Kyma

variable (templateChangeHandler : Object → List Request)

theorem setupWithManager_globalPredicates :
    (setupWithManager templateChangeHandler).globalPredicates = [generationChangedPredicate] := rfl

theorem setupWithManager_dispatch_manifest (event : Event) :
    (setupWithManager templateChangeHandler).dispatch .manifest event =
      if generationChangedPredicate.admits event then
        RestrictedEnqueueRequestForOwner.handle { isController := true } event
      else [] := by
  simp [setupWithManager, watchEventChannel, Builder.watchesRawSource, Builder.dispatch, Builder.watches,
    Builder.withEventFilter, Builder.forInput, newControllerManagedBy]

theorem setupWithManager_drops_same_generation_updates (source : Source) {objectOld objectNew : Object}
    (hgen : objectNew.generation = objectOld.generation) :
    (setupWithManager templateChangeHandler).dispatch source (.update objectOld objectNew) = [] :=
  dispatch_eq_nil_of_filtered (by rw [setupWithManager_globalPredicates]; exact List.mem_singleton_self _)
    (by simp [hgen]) source

theorem setupWithManager_never_wakes_kyma_on_manifest_events :
    (∀ event : Event, (∀ ref, getControllerOf event.object = some ref → ref.kind ≠ "") →
      (setupWithManager templateChangeHandler).dispatch .manifest event = []) ∧
      ∀ (source : Source) (objectOld objectNew : Object), objectNew.generation = objectOld.generation →
        (setupWithManager templateChangeHandler).dispatch source (.update objectOld objectNew) = [] := by
  refine ⟨fun event hkind => ?_, fun source _ _ => setupWithManager_drops_same_generation_updates _ source⟩
  rw [setupWithManager_dispatch_manifest]
  split_ifs
  · refine RestrictedEnqueueRequestForOwner.handle_eq_nil_of_kind_mismatch _ fun ref href => hkind ref ?_
    simpa [RestrictedEnqueueRequestForOwner.getOwnersReferences_eq] using href
  · rfl

end Kyma

def kymaTemplateHandler : Object → List Request := fun _ => []

theorem setupWithManager_never_wakes_kyma_on_manifest_events_bumped :
    getControllerOf (manifestObject 2 [kymaRef] (.string "Ready")) = some kymaRef ∧
      (manifestObject 2 [kymaRef] (.string "Ready")).generation ≠
        (manifestObject 1 [kymaRef] (.string "Processing")).generation ∧
      (nestedString (StateField.string "Processing")).1 ≠ (nestedString (StateField.string "Ready")).1 ∧
      (setupWithManager kymaTemplateHandler).dispatch .manifest
        (.update (manifestObject 1 [kymaRef] (.string "Processing"))
          (manifestObject 2 [kymaRef] (.string "Ready"))) = [] :=
  ⟨rfl, by decide, by decide, (setupWithManager_never_wakes_kyma_on_manifest_events kymaTemplateHandler).1 _
    fun ref href => by cases Option.some.inj href; decide⟩

section Queue

/-- Modelled from the spec: a stand-in for client-go's work queue, which is not in the
repository; adding a request already waiting in the queue leaves the queue unchanged. -/
def queueAdd (queue : List Request) (r : Request) : List Request :=
  if r ∈ queue then queue else queue ++ [r]

/-- Modelled from the spec: the controller delivers each event to its watches in order and adds
what they return to the work queue stand-in. -/
def Builder.run (b : Builder) : List (Source × Event) → List Request → List Request
  | [], queue => queue
  | (source, event) :: events, queue => b.run events ((b.dispatch source event).foldl queueAdd queue)

theorem setupWithManager_run_same_generation (templateChangeHandler : Object → List Request)
    (events : List (Source × Event))
    (hsame : ∀ se ∈ events, ∃ objectOld objectNew, se.2 = .update objectOld objectNew ∧
      objectNew.generation = objectOld.generation)
    (queue : List Request) :
    (setupWithManager templateChangeHandler).run events queue = queue := by
  induction events with
  | nil => rfl
  | cons se events ih =>
    obtain ⟨objectOld, objectNew, hse, hgen⟩ := hsame se (List.mem_cons_self _ _)
    obtain ⟨source, event⟩ := se
    obtain rfl : event = _ := hse
    rw [Builder.run, setupWithManager_drops_same_generation_updates templateChangeHandler source hgen]
    exact ih fun se hse => hsame se (List.mem_cons_of_mem _ hse)

theorem setupWithManager_run_same_generation_status_updates :
    (∀ se ∈ [(Source.manifest, Event.update (manifestObject 1 [kymaRef] (.string "Processing"))
        (manifestObject 1 [kymaRef] (.string "Ready")))],
      ∃ objectOld objectNew, se.2 = .update objectOld objectNew ∧
        objectNew.generation = objectOld.generation) ∧
      (setupWithManager kymaTemplateHandler).run
          [(.manifest, .update (manifestObject 1 [kymaRef] (.string "Processing"))
            (manifestObject 1 [kymaRef] (.string "Ready")))] [] = [] :=
  have hsame : ∀ se ∈ [(Source.manifest, Event.update (manifestObject 1 [kymaRef] (.string "Processing"))
      (manifestObject 1 [kymaRef] (.string "Ready")))],
      ∃ objectOld objectNew, se.2 = .update objectOld objectNew ∧
        objectNew.generation = objectOld.generation := by
    simp only [List.mem_singleton]
    rintro se rfl
    exact ⟨_, _, rfl, rfl⟩
  ⟨hsame, setupWithManager_run_same_generation kymaTemplateHandler _ hsame []⟩

end Queue

def PurgeReconciler.setupWithManager : Builder :=
  (newControllerManagedBy.forInput .kyma).withEventFilter generationChangedPredicate

end KymaOperator.Controllers
