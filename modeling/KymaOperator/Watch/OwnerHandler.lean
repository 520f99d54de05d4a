import KymaOperator.Api

namespace KymaOperator.Watch

structure GroupKind where
  group : String
  kind : String
  deriving DecidableEq, Repr

structure GroupVersion where
  group : String
  version : String
  deriving DecidableEq, Repr

def parseGroupVersion (gv : String) : Except String GroupVersion :=
  if gv = "" ∨ gv = "/" then .ok ⟨"", ""⟩
  else match gv.toList.splitOn '/' with
    | [version] => .ok ⟨"", String.mk version⟩
    | [group, version] => .ok ⟨String.mk group, String.mk version⟩
    | _ => .error ("unexpected GroupVersion string: " ++ gv)

inductive OwnerTypeError where
  | objectKindsFailed (cause : String)
  | noUniqueKind (kinds : List GroupVersionKind)
  deriving DecidableEq, Repr

def parseOwnerTypeGroupKind (kinds : Except String (List GroupVersionKind)) :
    Except OwnerTypeError GroupKind :=
  match kinds with
  | .error err => .error (.objectKindsFailed err)
  | .ok [kind] => .ok ⟨kind.group, kind.kind⟩
  | .ok kinds => .error (.noUniqueKind kinds)

structure OwnerReference where
  apiVersion : String
  kind : String
  name : String
  controller : Bool
  deriving DecidableEq, Repr

inductive StateField where
  | absent
  | string (state : String)
  | nonString
  deriving DecidableEq, Repr

def nestedString : StateField → String × Bool
  | .string state => (state, true)
  | _ => ("", false)

structure Request where
  name : String
  ns : String
  deriving DecidableEq, Repr

/-- The entry "owner" of an event's object as the SKR listener's handler reads it: a typed object
has no unstructured entries; an unstructured one may lack the entry or hold a client.ObjectKey or
a value of another type. -/
inductive OwnerField where
  | typed
  | absent
  | objectKey (key : Request)
  | other
  deriving DecidableEq, Repr

structure Object where
  name : String
  ns : String
  generation : Int
  ownerReferences : List OwnerReference
  statusState : StateField
  owner : OwnerField
  deriving DecidableEq, Repr

def getControllerOf (object : Object) : Option OwnerReference :=
  object.ownerReferences.find? (·.controller)

inductive RESTScopeName where
  | namespaced
  | root
  deriving DecidableEq, Repr

abbrev Requests := AList fun _ : Request => OwnerReference

inductive Event where
  | create (object : Object)
  | update (objectOld objectNew : Object)
  | delete (object : Object)
  | generic (object : Object)
  deriving DecidableEq, Repr

/-- A RESTMapper field that nothing sets keeps Go's zero value, a nil interface, and calling it
panics. The handler calls it only for a reference of empty kind and group, which owner reference
validation rejects; here it maps nothing. -/
def nilRESTMapper : GroupKind → String → Option RESTScopeName := fun _ _ => none

structure RestrictedEnqueueRequestForOwner where
  isController : Bool
  groupKind : GroupKind := ⟨"", ""⟩
  mapper : GroupKind → String → Option RESTScopeName := nilRESTMapper

namespace RestrictedEnqueueRequestForOwner

variable (e : RestrictedEnqueueRequestForOwner)

def injectScheme (kinds : Except String (List GroupVersionKind)) :
    Except OwnerTypeError RestrictedEnqueueRequestForOwner :=
  (parseOwnerTypeGroupKind kinds).map fun groupKind => { e with groupKind }

def getOwnersReferences (object : Object) : List OwnerReference :=
  if !e.isController then object.ownerReferences
  else match getControllerOf object with
    | some ownerRef => [ownerRef]
    | none => []

def getOwnerReconcileRequestFromOwnerReference (oldIfAny : Option Object) (object : Object)
    (result : Requests) (ref : OwnerReference) (refGV : GroupVersion) : Requests :=
  if ref.kind ≠ e.groupKind.kind ∨ refGV.group ≠ e.groupKind.group then result
  else match e.mapper e.groupKind refGV.version with
    | none => result
    | some scope =>
      let request : Request := ⟨ref.name, if scope ≠ .root then object.ns else ""⟩
      match oldIfAny with
      | some objectOld =>
        if (nestedString objectOld.statusState).1 ≠ (nestedString object.statusState).1 then
          result.insert request ref
        else result
      | none => result.insert request ref

def collectRequests (oldIfAny : Option Object) (object : Object) :
    List OwnerReference → Requests → Requests
  | [], result => result
  | ref :: refs, result =>
    match parseGroupVersion ref.apiVersion with
    | .error _ => result
    | .ok refGV => collectRequests oldIfAny object refs
        (e.getOwnerReconcileRequestFromOwnerReference oldIfAny object result ref refGV)

def getOwnerReconcileRequest (oldIfAny : Option Object) (object : Object) (result : Requests) :
    Requests :=
  e.collectRequests oldIfAny object (e.getOwnersReferences object) result

def enqueue (oldIfAny : Option Object) (object : Object) : List Request :=
  (e.getOwnerReconcileRequest oldIfAny object ∅).keys

def create (object : Object) : List Request := e.enqueue none object

def update (objectOld objectNew : Object) : List Request := e.enqueue (some objectOld) objectNew

def delete (object : Object) : List Request := e.enqueue none object

def generic (object : Object) : List Request := e.enqueue none object

def handle : Event → List Request
  | .create object => e.create object
  | .update objectOld objectNew => e.update objectOld objectNew
  | .delete object => e.delete object
  | .generic object => e.generic object

def requestOf (oldIfAny : Option Object) (object : Object) (ref : OwnerReference)
    (refGV : GroupVersion) : Option Request :=
  if ref.kind ≠ e.groupKind.kind ∨ refGV.group ≠ e.groupKind.group then none
  else match e.mapper e.groupKind refGV.version with
    | none => none
    | some scope =>
      let request : Request := ⟨ref.name, if scope ≠ .root then object.ns else ""⟩
      match oldIfAny with
      | some objectOld =>
        if (nestedString objectOld.statusState).1 ≠ (nestedString object.statusState).1 then
          some request
        else none
      | none => some request

theorem getOwnerReconcileRequestFromOwnerReference_eq (oldIfAny : Option Object) (object : Object)
    (result : Requests) (ref : OwnerReference) (refGV : GroupVersion) :
    e.getOwnerReconcileRequestFromOwnerReference oldIfAny object result ref refGV =
      match e.requestOf oldIfAny object ref refGV with
      | some request => result.insert request ref
      | none => result := by
  unfold getOwnerReconcileRequestFromOwnerReference requestOf
  split_ifs
  · rfl
  · cases e.mapper e.groupKind refGV.version with
    | none => rfl
    | some scope =>
      cases oldIfAny with
      | none => rfl
      | some objectOld => dsimp only; split_ifs <;> rfl

theorem requestOf_of_match {oldIfAny : Option Object} {object : Object} {ref : OwnerReference}
    {refGV : GroupVersion} {scope : RESTScopeName} (hkind : ref.kind = e.groupKind.kind)
    (hgroup : refGV.group = e.groupKind.group) (hscope : e.mapper e.groupKind refGV.version = some scope) :
    e.requestOf oldIfAny object ref refGV =
      match oldIfAny with
      | some objectOld =>
        if (nestedString objectOld.statusState).1 ≠ (nestedString object.statusState).1 then
          some ⟨ref.name, if scope ≠ .root then object.ns else ""⟩
        else none
      | none => some ⟨ref.name, if scope ≠ .root then object.ns else ""⟩ := by
  simp only [requestOf, hkind, hgroup, ne_eq, not_true_eq_false, or_self, if_false, hscope]

theorem requestOf_eq_some {oldIfAny : Option Object} {object : Object} {ref : OwnerReference}
    {refGV : GroupVersion} {r : Request} :
    e.requestOf oldIfAny object ref refGV = some r ↔
      ref.kind = e.groupKind.kind ∧ refGV.group = e.groupKind.group ∧ ∃ scope,
        e.mapper e.groupKind refGV.version = some scope ∧
        (∀ objectOld, oldIfAny = some objectOld →
          (nestedString objectOld.statusState).1 ≠ (nestedString object.statusState).1) ∧
        r = ⟨ref.name, if scope ≠ .root then object.ns else ""⟩ := by
  by_cases hmatch : ref.kind = e.groupKind.kind ∧ refGV.group = e.groupKind.group
  · obtain ⟨hkind, hgroup⟩ := hmatch
    cases hscope : e.mapper e.groupKind refGV.version with
    | none => simp [requestOf, hkind, hgroup, hscope]
    | some scope =>
      rw [e.requestOf_of_match hkind hgroup hscope]
      cases oldIfAny with
      | none => simp [hkind, hgroup, eq_comm]
      | some objectOld =>
        by_cases hs : (nestedString objectOld.statusState).1 = (nestedString object.statusState).1 <;>
          simp [hkind, hgroup, hs, @eq_comm Request]
  · have hmiss : ref.kind ≠ e.groupKind.kind ∨ refGV.group ≠ e.groupKind.group := by tauto
    simp only [requestOf, if_pos hmiss, reduceCtorEq, false_iff]
    tauto

theorem requestOf_update {objectOld object : Object} {ref : OwnerReference} {refGV : GroupVersion}
    {request : Request} (h : e.requestOf (some objectOld) object ref refGV = some request) :
    (nestedString objectOld.statusState).1 ≠ (nestedString object.statusState).1 := by
  obtain ⟨-, -, -, -, hstate, -⟩ := e.requestOf_eq_some.mp h
  exact hstate objectOld rfl

def refRequest (oldIfAny : Option Object) (object : Object) (ref : OwnerReference) : Option Request :=
  match parseGroupVersion ref.apiVersion with
  | .ok refGV => e.requestOf oldIfAny object ref refGV
  | .error _ => none

def parsable (ref : OwnerReference) : Bool := (parseGroupVersion ref.apiVersion).isOk

theorem parsable_of_ok {ref : OwnerReference} {refGV : GroupVersion}
    (hgv : parseGroupVersion ref.apiVersion = .ok refGV) : parsable ref = true := by
  simp [parsable, hgv, Except.isOk, Except.toBool]

theorem mem_collectRequests (oldIfAny : Option Object) (object : Object) (refs : List OwnerReference)
    (result : Requests) (r : Request) :
    r ∈ e.collectRequests oldIfAny object refs result ↔
      r ∈ result ∨ ∃ ref ∈ refs.takeWhile parsable, e.refRequest oldIfAny object ref = some r := by
  induction refs generalizing result with
  | nil => simp [collectRequests]
  | cons ref refs ih =>
    cases hgv : parseGroupVersion ref.apiVersion with
    | error err =>
      have hp : parsable ref = false := by simp [parsable, hgv, Except.isOk, Except.toBool]
      simp [collectRequests, hgv, List.takeWhile_cons_of_neg, hp]
    | ok refGV =>
      have href : e.refRequest oldIfAny object ref = e.requestOf oldIfAny object ref refGV := by
        simp [refRequest, hgv]
      rw [collectRequests, hgv, ih, getOwnerReconcileRequestFromOwnerReference_eq,
        List.takeWhile_cons_of_pos (parsable_of_ok hgv)]
      simp only [List.mem_cons, exists_eq_or_imp, href]
      cases e.requestOf oldIfAny object ref refGV with
      | none => simp
      | some request =>
        simp only [AList.mem_insert, Option.some.injEq, @eq_comm _ request r, or_assoc]
        exact or_left_comm

theorem mem_enqueue (oldIfAny : Option Object) (object : Object) (r : Request) :
    r ∈ e.enqueue oldIfAny object ↔
      ∃ ref ∈ (e.getOwnersReferences object).takeWhile parsable,
        e.refRequest oldIfAny object ref = some r := by
  rw [enqueue, ← AList.mem_keys, getOwnerReconcileRequest, mem_collectRequests]
  simp

theorem enqueue_nodup (oldIfAny : Option Object) (object : Object) :
    (e.enqueue oldIfAny object).Nodup :=
  AList.keys_nodup _

end RestrictedEnqueueRequestForOwner

end KymaOperator.Watch
