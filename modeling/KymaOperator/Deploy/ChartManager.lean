import KymaOperator.Api

namespace KymaOperator.Deploy

structure SKRChartManager where
  webhookChartPath : String
  skrWebhookMemoryLimits : String
  skrWebhookCPULimits : String
  kcpAddr : String
  enableWebhookPreInstallCheck : Bool
  deriving DecidableEq, Repr

def newSKRChartManager (chartPath memoryLimits cpuLimits : String) (enableWebhookPreInstallCheck : Bool) :
    SKRChartManager :=
  ⟨chartPath, memoryLimits, cpuLimits, "", enableWebhookPreInstallCheck⟩

def statusField : String := "status"

structure Watcher where
  moduleName : String
  field : String
  labelsToWatch : List (String × String)
  deriving DecidableEq, Repr

structure WatchableConfig where
  labels : List (String × String)
  statusOnly : Bool
  deriving DecidableEq, Repr

structure LoadBalancerIngress where
  ip : String
  deriving DecidableEq, Repr

structure ServicePort where
  name : String
  port : Int
  deriving DecidableEq, Repr

structure Service where
  ingress : List LoadBalancerIngress
  ports : List ServicePort
  deriving DecidableEq, Repr

structure KcpClient where
  watchers : Except String (List Watcher)
  loadBalancerService : Except String Service

structure HelmChartArgs where
  kcpAddr : String
  resourcesLimitsMemory : String
  resourcesLimitsCPU : String
  customConfig : AList fun _ : String => WatchableConfig

structure InstallInfo where
  chartPath : String
  releaseName : String
  args : HelmChartArgs

structure SkrClient where
  remoteClient : Except String Unit
  restConfig : Except String Unit
  uninstallChart : InstallInfo → Except String Bool
  consistencyCheck : InstallInfo → Except String Bool
  installChart : InstallInfo → Except String Bool

inductive Mode where
  | install
  | uninstall
  deriving DecidableEq, Repr

inductive DeployError where
  | failed (err : String)
  | listWatchers (err : String)
  | noWatchers
  | loadBalancerIPIsNotAssigned
  | uninstallFailed (err : String)
  | skrWebhookWasNotRemoved
  | verifyFailed (err : String)
  | installFailed (err : String)
  | skrWebhookHasNotBeenInstalled
  deriving DecidableEq, Repr

def joinHostPort (host port : String) : String :=
  if ':' ∈ host.data then "[" ++ host ++ "]:" ++ port else host ++ ":" ++ port

theorem joinHostPort_ne_empty (host port : String) : joinHostPort host port ≠ "" := by
  unfold joinHostPort
  split_ifs <;> simp [String.ext_iff]

def generateWatchableConfigs (watchers : List Watcher) : AList fun _ : String => WatchableConfig :=
  watchers.foldl (fun chartCfg watcher =>
    chartCfg.insert watcher.moduleName ⟨watcher.labelsToWatch, watcher.field == statusField⟩) ∅

def SKRChartManager.resolveKcpAddr (m : SKRChartManager) (kcpClient : KcpClient) :
    Except DeployError String × SKRChartManager :=
  if m.kcpAddr ≠ "" then (.ok m.kcpAddr, m)
  else
    match kcpClient.loadBalancerService with
    | .error err => (.error (.failed err), m)
    | .ok loadBalancerService =>
      match loadBalancerService.ingress with
      | [] => (.error .loadBalancerIPIsNotAssigned, m)
      | ingress :: _ =>
        let port := match loadBalancerService.ports.find? (·.name == "http2") with
          | some loadBalancerPort => loadBalancerPort.port
          | none => 0
        let kcpAddr := joinHostPort ingress.ip (toString port)
        (.ok kcpAddr, { m with kcpAddr := kcpAddr })

def SKRChartManager.generateHelmChartArgs (m : SKRChartManager) (kcpClient : KcpClient) :
    Except DeployError HelmChartArgs × SKRChartManager :=
  match kcpClient.watchers with
  | .error err => (.error (.listWatchers err), m)
  | .ok [] => (.error .noWatchers, m)
  | .ok watchers =>
    let chartCfg := generateWatchableConfigs watchers
    match m.resolveKcpAddr kcpClient with
    | (.error err, m) => (.error err, m)
    | (.ok kcpAddr, m) => (.ok ⟨kcpAddr, m.skrWebhookMemoryLimits, m.skrWebhookCPULimits, chartCfg⟩, m)

def installOrRemoveChartOnSKR (skr : SkrClient) (deployInfo : InstallInfo) (mode : Mode)
    (enableWebhookPreInstallCheck : Bool) : Except DeployError Unit :=
  if mode = .uninstall then
    match skr.uninstallChart deployInfo with
    | .error err => .error (.uninstallFailed err)
    | .ok uninstalled => if !uninstalled then .error .skrWebhookWasNotRemoved else .ok ()
  else
    let install : Except DeployError Unit :=
      match skr.installChart deployInfo with
      | .error err => .error (.installFailed err)
      | .ok installed => if !installed then .error .skrWebhookHasNotBeenInstalled else .ok ()
    if enableWebhookPreInstallCheck then
      match skr.consistencyCheck deployInfo with
      | .error err => .error (.verifyFailed err)
      | .ok ready => if ready then .ok () else install
    else install

theorem generateWatchableConfigs_lookup (watchers : List Watcher) (moduleName : String) :
    (generateWatchableConfigs watchers).lookup moduleName =
      (watchers.reverse.find? (·.moduleName == moduleName)).map fun watcher =>
        ⟨watcher.labelsToWatch, watcher.field == statusField⟩ := by
  have h := lookup_foldl_insert (·.moduleName)
    (fun watcher : Watcher => (⟨watcher.labelsToWatch, watcher.field == statusField⟩ : WatchableConfig))
    watchers ∅ moduleName
  rwa [AList.lookup_empty, Option.or_none] at h

def SKRChartManager.Pins (m m' : SKRChartManager) : Prop :=
  m' = m ∨ m.kcpAddr = "" ∧ ∃ kcpAddr, kcpAddr ≠ "" ∧ m' = { m with kcpAddr := kcpAddr }

theorem SKRChartManager.Pins.refl (m : SKRChartManager) : m.Pins m := .inl rfl

theorem SKRChartManager.Pins.trans {m m' m'' : SKRChartManager} (h : m.Pins m') (h' : m'.Pins m'') :
    m.Pins m'' := by
  rcases h with rfl | ⟨hm, kcpAddr, hne, rfl⟩
  · exact h'
  · rcases h' with rfl | ⟨hm', -⟩
    · exact .inr ⟨hm, kcpAddr, hne, rfl⟩
    · exact absurd hm' hne

@[simp]
theorem SKRChartManager.resolveKcpAddr_of_resolved {m : SKRChartManager} (h : m.kcpAddr ≠ "")
    (kcpClient : KcpClient) : m.resolveKcpAddr kcpClient = (.ok m.kcpAddr, m) := by
  simp [SKRChartManager.resolveKcpAddr, h]

theorem SKRChartManager.resolveKcpAddr_cases (m : SKRChartManager) (kcpClient : KcpClient) :
    (∃ err, m.resolveKcpAddr kcpClient = (.error err, m)) ∨
      ∃ kcpAddr, m.Pins { m with kcpAddr := kcpAddr } ∧
        m.resolveKcpAddr kcpClient = (.ok kcpAddr, { m with kcpAddr := kcpAddr }) := by
  by_cases h : m.kcpAddr = ""
  · unfold SKRChartManager.resolveKcpAddr
    simp only [h, ne_eq, not_true_eq_false, if_false]
    split
    · exact .inl ⟨_, rfl⟩
    · split
      · exact .inl ⟨_, rfl⟩
      · exact .inr ⟨_, .inr ⟨h, _, joinHostPort_ne_empty _ _, rfl⟩, rfl⟩
  · exact .inr ⟨m.kcpAddr, .inl rfl, by simp [h]⟩

theorem SKRChartManager.generateHelmChartArgs_cases (m : SKRChartManager) (kcpClient : KcpClient) :
    (∃ err, m.generateHelmChartArgs kcpClient = (.error err, m)) ∨
      ∃ args : HelmChartArgs, m.Pins { m with kcpAddr := args.kcpAddr } ∧
        m.generateHelmChartArgs kcpClient = (.ok args, { m with kcpAddr := args.kcpAddr }) := by
  unfold SKRChartManager.generateHelmChartArgs
  split
  · exact .inl ⟨_, rfl⟩
  · exact .inl ⟨_, rfl⟩
  · rcases m.resolveKcpAddr_cases kcpClient with ⟨err, h⟩ | ⟨kcpAddr, hpins, h⟩ <;> simp only [h]
    · exact .inl ⟨_, rfl⟩
    · exact .inr ⟨_, hpins, rfl⟩

theorem installOrRemoveChartOnSKR_install_ok {skr : SkrClient} {deployInfo : InstallInfo}
    {enableWebhookPreInstallCheck : Bool}
    (h : installOrRemoveChartOnSKR skr deployInfo .install enableWebhookPreInstallCheck = .ok ()) :
    enableWebhookPreInstallCheck = true ∧ skr.consistencyCheck deployInfo = .ok true ∨
      skr.installChart deployInfo = .ok true := by
  unfold installOrRemoveChartOnSKR at h
  rcases hc : skr.consistencyCheck deployInfo with _ | _ | _ <;>
    rcases hi : skr.installChart deployInfo with _ | _ | _ <;>
    cases enableWebhookPreInstallCheck <;> simp_all

inductive WebhookRequest where
  | install (skr : SkrClient) (kcpClient : KcpClient)
  | remove (skr : SkrClient) (kcpClient : KcpClient)

section Webhook

variable ( ReleaseName : String)

def SKRChartManager.installWebhookChart (m : SKRChartManager) (skr : SkrClient) (kcpClient : KcpClient) :
    (Bool × Except DeployError Unit) × SKRChartManager :=
  match skr.remoteClient with
  | .error err => ((true, .error (.failed err)), m)
  | .ok () =>
    match skr.restConfig with
    | .error err => ((true, .error (.failed err)), m)
    | .ok () =>
      match m.generateHelmChartArgs kcpClient with
      | (.error err, m) => ((true, .error err), m)
      | (.ok argsVals, m) =>
        match installOrRemoveChartOnSKR skr ⟨m.webhookChartPath, ReleaseName, argsVals⟩ .install
            m.enableWebhookPreInstallCheck with
        | .error err => ((true, .error err), m)
        | .ok () => ((false, .ok ()), m)

def SKRChartManager.removeWebhookChart (m : SKRChartManager) (skr : SkrClient) (kcpClient : KcpClient) :
    Except DeployError Unit × SKRChartManager :=
  match skr.remoteClient with
  | .error err => (.error (.failed err), m)
  | .ok () =>
    match skr.restConfig with
    | .error err => (.error (.failed err), m)
    | .ok () =>
      match m.generateHelmChartArgs kcpClient with
      | (.error err, m) => (.error err, m)
      | (.ok argsVals, m) =>
        (installOrRemoveChartOnSKR skr ⟨m.webhookChartPath, ReleaseName, argsVals⟩ .uninstall
          m.enableWebhookPreInstallCheck, m)

theorem SKRChartManager.installWebhookChart_requeues_until_installed (m : SKRChartManager) (skr : SkrClient)
    (kcpClient : KcpClient) :
    ((m.installWebhookChart ReleaseName skr kcpClient).1.1 = true ↔
        ∃ err, (m.installWebhookChart ReleaseName skr kcpClient).1.2 = .error err) ∧
      ((m.installWebhookChart ReleaseName skr kcpClient).1.2 = .ok () →
        ∃ args : HelmChartArgs, args.kcpAddr = (m.installWebhookChart ReleaseName skr kcpClient).2.kcpAddr ∧
          (m.enableWebhookPreInstallCheck = true ∧
              skr.consistencyCheck ⟨m.webhookChartPath, ReleaseName, args⟩ = .ok true ∨
            skr.installChart ⟨m.webhookChartPath, ReleaseName, args⟩ = .ok true)) := by
  unfold SKRChartManager.installWebhookChart
  split
  · simp
  split
  · simp
  rcases m.generateHelmChartArgs_cases kcpClient with ⟨err, h⟩ | ⟨args, -, h⟩ <;> simp only [h]
  · simp
  · split
    · simp
    · rename_i hinstall
      exact ⟨by simp, fun _ => ⟨args, rfl, installOrRemoveChartOnSKR_install_ok hinstall⟩⟩

def SKRChartManager.serve (m : SKRChartManager) : WebhookRequest → SKRChartManager
  | .install skr kcpClient => (m.installWebhookChart ReleaseName skr kcpClient).2
  | .remove skr kcpClient => (m.removeWebhookChart ReleaseName skr kcpClient).2

theorem SKRChartManager.pins_installWebhookChart (m : SKRChartManager) (skr : SkrClient)
    (kcpClient : KcpClient) : m.Pins (m.installWebhookChart ReleaseName skr kcpClient).2 := by
  unfold SKRChartManager.installWebhookChart
  split
  · exact .refl m
  split
  · exact .refl m
  rcases m.generateHelmChartArgs_cases kcpClient with ⟨err, h⟩ | ⟨args, hpins, h⟩ <;> simp only [h]
  · exact .refl m
  · split <;> exact hpins

theorem SKRChartManager.pins_removeWebhookChart (m : SKRChartManager) (skr : SkrClient)
    (kcpClient : KcpClient) : m.Pins (m.removeWebhookChart ReleaseName skr kcpClient).2 := by
  unfold SKRChartManager.removeWebhookChart
  split
  · exact .refl m
  split
  · exact .refl m
  rcases m.generateHelmChartArgs_cases kcpClient with ⟨err, h⟩ | ⟨args, hpins, h⟩ <;> simp only [h]
  · exact .refl m
  · exact hpins

theorem SKRChartManager.pins_serve (m : SKRChartManager) (request : WebhookRequest) :
    m.Pins (m.serve ReleaseName request) := by
  cases request with
  | install skr kcpClient => exact m.pins_installWebhookChart ReleaseName skr kcpClient
  | remove skr kcpClient => exact m.pins_removeWebhookChart ReleaseName skr kcpClient

theorem SKRChartManager.serve_pins_kcpAddr (m : SKRChartManager) (requests : List WebhookRequest) :
    m.Pins (requests.foldl (·.serve ReleaseName ·) m) := by
  induction requests generalizing m with
  | nil => exact .refl m
  | cons request requests ih => exact (m.pins_serve ReleaseName request).trans (ih _)

end Webhook

end KymaOperator.Deploy
