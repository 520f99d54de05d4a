import KymaOperator.Manifests.Parse
import KymaOperator.Watch.OwnerHandler

namespace KymaOperator.Manifests

open Watch

def stateReady : String := "Ready"
def stateWarning : String := "Warning"
def stateError : String := "Error"

def customResourceStatePath : String := "status.state"

def deploymentAvailable : String := "Available"
def conditionTrue : String := "True"

structure DeploymentCondition where
  type : String
  status : String
  deriving DecidableEq, Repr

structure Deployment where
  ns : String
  name : String
  replicas : Option Int
  readyReplicas : Int
  conditions : List DeploymentCondition
  deriving DecidableEq, Repr

def getDeploymentCondition (conditions : List DeploymentCondition) (condType : String) :
    Option DeploymentCondition :=
  conditions.find? (·.type == condType)

structure CustomResource where
  name : String
  ns : String
  nestedString : List String → StateField

structure ManifestObject where
  annotations : AList fun _ : String => String
  resource : Option CustomResource

structure CustomStateCheck where
  jsonPath : String
  value : String
  deriving DecidableEq, Repr

structure Client where
  get : String → String → Except String CustomResource
  convert : RuntimeObject → Option Deployment

inductive ReadyCheckError where
  | deploymentNotReady (ns name : String)
  | getFailed (err : String)
  | customStateCheckInvalid (err : String)
  | noDeterminedState (name jsonPath : String)
  | customResourceStateNotFound
  | resourcesNotReady (stateFromCR : String)
  deriving DecidableEq, Repr

def stableState (state : String) : Bool :=
  state == stateReady || state == stateWarning

@[simp]
theorem stableState_eq_true (state : String) :
    stableState state = true ↔ state = stateReady ∨ state = stateWarning := by
  simp [stableState]

def checkDeploymentState (clt : Client) (resources : List Info) : Except ReadyCheckError Unit :=
  match resources.findSome? (clt.convert ·.object) with
  | none => .ok ()
  | some deploy =>
    if (getDeploymentCondition deploy.conditions deploymentAvailable).any (·.status == conditionTrue) then
      .ok ()
    else if deploy.replicas = some deploy.readyReplicas then .ok ()
    else .error (.deploymentNotReady deploy.ns deploy.name)

section Run

variable ( CustomStateCheckAnnotation : String) (unmarshal : String → Except String CustomStateCheck)

def parseCustomStateCheck (manifest : ManifestObject) : Except String CustomStateCheck :=
  match manifest.annotations.lookup CustomStateCheckAnnotation with
  | none => .ok ⟨customResourceStatePath, stateReady⟩
  | some customStateCheckAnnotation => unmarshal customStateCheckAnnotation

def ManifestCustomResourceReadyCheck.run (clnt : Client) (obj : ManifestObject) (resources : List Info) :
    String × Option ReadyCheckError :=
  match checkDeploymentState clnt resources with
  | .error err => (stateError, some err)
  | .ok () =>
    match obj.resource with
    | none => (stateReady, none)
    | some res =>
      match clnt.get res.ns res.name with
      | .error err => (stateError, some (.getFailed err))
      | .ok res =>
        match parseCustomStateCheck CustomStateCheckAnnotation unmarshal obj with
        | .error err => (stateError, some (.customStateCheckInvalid err))
        | .ok customStateCheck =>
          match res.nestedString (customStateCheck.jsonPath.split (· = '.')) with
          | .nonString => (stateError, some (.noDeterminedState res.name customStateCheck.jsonPath))
          | .absent => (stateError, some .customResourceStateNotFound)
          | .string stateFromCR =>
            let typedState := if customStateCheck.value = stateFromCR then stateReady else stateFromCR
            if !stableState typedState then (stateError, some (.resourcesNotReady stateFromCR))
            else (typedState, none)

variable (clnt : Client) (obj : ManifestObject) (resources : List Info)

theorem run_cases :
    (∃ err, ManifestCustomResourceReadyCheck.run CustomStateCheckAnnotation unmarshal clnt obj resources =
        (stateError, some err)) ∨
      (checkDeploymentState clnt resources = .ok () ∧ obj.resource = none ∧
        ManifestCustomResourceReadyCheck.run CustomStateCheckAnnotation unmarshal clnt obj resources =
          (stateReady, none)) ∨
      ∃ res live check stateFromCR, checkDeploymentState clnt resources = .ok () ∧
        obj.resource = some res ∧ clnt.get res.ns res.name = .ok live ∧
        parseCustomStateCheck CustomStateCheckAnnotation unmarshal obj = .ok check ∧
        live.nestedString (check.jsonPath.split (· = '.')) = .string stateFromCR ∧
        stableState (if check.value = stateFromCR then stateReady else stateFromCR) = true ∧
        ManifestCustomResourceReadyCheck.run CustomStateCheckAnnotation unmarshal clnt obj resources =
          (if check.value = stateFromCR then stateReady else stateFromCR, none) := by
  unfold ManifestCustomResourceReadyCheck.run
  split
  · exact .inl ⟨_, rfl⟩
  rename_i hd
  split
  · exact .inr (.inl ⟨hd, ‹_›, rfl⟩)
  rename_i res hr
  split
  · exact .inl ⟨_, rfl⟩
  rename_i live hg
  split
  · exact .inl ⟨_, rfl⟩
  rename_i check hp
  split
  · exact .inl ⟨_, rfl⟩
  · exact .inl ⟨_, rfl⟩
  rename_i stateFromCR hs
  by_cases hstable : stableState (if check.value = stateFromCR then stateReady else stateFromCR) = true
  · exact .inr (.inr ⟨res, live, check, stateFromCR, hd, hr, hg, hp, hs, hstable, by simp [hstable]⟩)
  · exact .inl ⟨.resourcesNotReady stateFromCR, by simp [hstable]⟩

theorem run_reports_stable_state_or_error :
    ManifestCustomResourceReadyCheck.run CustomStateCheckAnnotation unmarshal clnt obj resources =
        (stateReady, none) ∨
      ManifestCustomResourceReadyCheck.run CustomStateCheckAnnotation unmarshal clnt obj resources =
        (stateWarning, none) ∨
      ∃ err, ManifestCustomResourceReadyCheck.run CustomStateCheckAnnotation unmarshal clnt obj resources =
        (stateError, some err) := by
  rcases run_cases CustomStateCheckAnnotation unmarshal clnt obj resources with
    herr | ⟨-, -, hrun⟩ | ⟨_, _, _, _, -, -, -, -, -, hstable, hrun⟩
  · exact .inr (.inr herr)
  · exact .inl hrun
  · rw [hrun]
    rcases (stableState_eq_true _).mp hstable with h | h <;> rw [h] <;> simp

theorem run_ignores_resources_after_first_deployment {more : List Info}
    (h : ∃ res ∈ resources, (clnt.convert res.object).isSome) :
    ManifestCustomResourceReadyCheck.run CustomStateCheckAnnotation unmarshal clnt obj (resources ++ more) =
      ManifestCustomResourceReadyCheck.run CustomStateCheckAnnotation unmarshal clnt obj resources := by
  have hfirst : (resources.findSome? (clnt.convert ·.object)).isSome := List.findSome?_isSome_iff.mpr h
  have hcheck : checkDeploymentState clnt (resources ++ more) = checkDeploymentState clnt resources := by
    obtain ⟨deploy, hdeploy⟩ := Option.isSome_iff_exists.mp hfirst
    simp only [checkDeploymentState, List.findSome?_append, hdeploy, Option.or_some]
  simp only [ManifestCustomResourceReadyCheck.run, hcheck]

end Run

def availableDeployment : Deployment :=
  ⟨"kcp-system", "template-operator-controller-manager", some 1, 1, [⟨"Available", "True"⟩]⟩

def stalledDeployment : Deployment :=
  ⟨"kcp-system", "template-operator-webhook", some 2, 0, [⟨"Available", "False"⟩]⟩

def deploymentClient : Client :=
  ⟨fun _ _ => .error "not found", fun
    | .typed "controller-manager" => some availableDeployment
    | .typed "webhook" => some stalledDeployment
    | _ => none⟩

def noStateCheck : String → Except String CustomStateCheck := fun _ => .error "unexpected end of JSON input"

theorem run_ignores_resources_after_first_deployment_stalled :
    (∃ res ∈ [(⟨.typed "controller-manager"⟩ : Info)], (deploymentClient.convert res.object).isSome) ∧
      checkDeploymentState deploymentClient [⟨.typed "webhook"⟩] =
        .error (.deploymentNotReady "kcp-system" "template-operator-webhook") ∧
      ManifestCustomResourceReadyCheck.run "custom-state-check" noStateCheck deploymentClient ⟨∅, none⟩
          ([⟨.typed "controller-manager"⟩] ++ [⟨.typed "webhook"⟩]) =
        ManifestCustomResourceReadyCheck.run "custom-state-check" noStateCheck deploymentClient ⟨∅, none⟩
          [⟨.typed "controller-manager"⟩] :=
  have h : ∃ res ∈ [(⟨.typed "controller-manager"⟩ : Info)], (deploymentClient.convert res.object).isSome := by
    decide
  ⟨h, by decide, run_ignores_resources_after_first_deployment "custom-state-check" noStateCheck deploymentClient
    ⟨∅, none⟩ [⟨.typed "controller-manager"⟩] h⟩

end KymaOperator.Manifests
