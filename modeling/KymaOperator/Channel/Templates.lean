import KymaOperator.Channel.Lookup

namespace KymaOperator.Channel

def lookupModule (DefaultChannel : String) (kymaClient runtimeClient : Except String (List ModuleTemplate))
    (kyma : Kyma) (module : Module) : ModuleTemplateTO :=
  if module.remoteModuleTemplateRef = "" then
    (TemplateLookup.mk kymaClient module kyma.channel).withContext DefaultChannel
  else if kyma.syncEnabled then
    (TemplateLookup.mk runtimeClient { module with name := module.remoteModuleTemplateRef }
      kyma.channel).withContext DefaultChannel
  else ⟨none, false, some (.invalidRemoteModuleConfiguration module.name), ""⟩

def visibility (kyma : Kyma) (moduleTemplate : ModuleTemplateTO) : ModuleTemplateTO :=
  match moduleTemplate.err, moduleTemplate.moduleTemplate with
  | none, some template =>
    let moduleTemplate := if template.internal && !kyma.internal then
      { moduleTemplate with err := some (.templateNotAllowed "internal") } else moduleTemplate
    if template.beta && !kyma.beta then
      { moduleTemplate with err := some (.templateNotAllowed "beta") } else moduleTemplate
  | _, _ => moduleTemplate

def determineTemplatesVisibility (kyma : Kyma) (templates : ModuleTemplatesByModuleName) :
    ModuleTemplatesByModuleName :=
  rangeUpdate (visibility kyma) templates

section Outdated

variable {Version : Type} (semver : Semver Version)

def checkForOutdatedTemplate (moduleTemplate : ModuleTemplateTO) (moduleStatus : ModuleStatus) :
    ModuleTemplateTO :=
  match moduleStatus.template, moduleTemplate.moduleTemplate with
  | some tracked, some template =>
    if template.generation ≠ tracked.generation then { moduleTemplate with outdated := true }
    else if template.channel ≠ moduleStatus.channel then
      match template.descriptor with
      | .error _ => moduleTemplate
      | .ok descriptor =>
        match semver.newVersion descriptor.version with
        | .error _ => moduleTemplate
        | .ok versionInTemplate =>
          match semver.newVersion moduleStatus.version with
          | .error _ => moduleTemplate
          | .ok versionInStatus =>
            if semver.greaterThan versionInStatus versionInTemplate then moduleTemplate
            else { moduleTemplate with outdated := true }
    else moduleTemplate
  | _, _ => moduleTemplate

def checkOutdatedStatus (moduleName : String) (moduleTemplate : ModuleTemplateTO)
    (moduleStatus : ModuleStatus) : ModuleTemplateTO :=
  if moduleStatus.fqdn = moduleName ∧ moduleTemplate.moduleTemplate.isSome then
    checkForOutdatedTemplate semver moduleTemplate moduleStatus
  else moduleTemplate

def checkOutdatedCopy (kyma : Kyma) (moduleName : String) (moduleTemplate : ModuleTemplateTO) :
    ModuleTemplateTO :=
  kyma.statusModules.foldl (checkOutdatedStatus semver moduleName) moduleTemplate

def checkForOutdatedTemplates (kyma : Kyma) (templates : ModuleTemplatesByModuleName) :
    ModuleTemplatesByModuleName :=
  templates.foldl (fun templates moduleName moduleTemplate =>
    let _ := checkOutdatedCopy semver kyma moduleName moduleTemplate
    templates) templates

def getTemplates (DefaultChannel : String) (kymaClient runtimeClient : Except String (List ModuleTemplate))
    (kyma : Kyma) : ModuleTemplatesByModuleName :=
  let templates := kyma.modules.foldl (fun templates module =>
    templates.insert module.name (lookupModule DefaultChannel kymaClient runtimeClient kyma module)) ∅
  let templates := determineTemplatesVisibility kyma templates
  checkForOutdatedTemplates semver kyma templates

theorem checkForOutdatedTemplate_cases (moduleTemplate : ModuleTemplateTO) (moduleStatus : ModuleStatus) :
    checkForOutdatedTemplate semver moduleTemplate moduleStatus = moduleTemplate ∨
      checkForOutdatedTemplate semver moduleTemplate moduleStatus = { moduleTemplate with outdated := true } := by
  unfold checkForOutdatedTemplate
  repeat' split
  all_goals first | exact .inl rfl | exact .inr rfl

theorem checkForOutdatedTemplate_generation_skew {moduleTemplate : ModuleTemplateTO}
    {moduleStatus : ModuleStatus} {template : ModuleTemplate} {tracked : TrackingObject}
    (htemplate : moduleTemplate.moduleTemplate = some template)
    (htracked : moduleStatus.template = some tracked) (hskew : template.generation ≠ tracked.generation) :
    (checkForOutdatedTemplate semver moduleTemplate moduleStatus).outdated = true := by
  simp [checkForOutdatedTemplate, htemplate, htracked, hskew]

theorem checkOutdatedStatus_cases (moduleName : String) (moduleTemplate : ModuleTemplateTO)
    (moduleStatus : ModuleStatus) :
    checkOutdatedStatus semver moduleName moduleTemplate moduleStatus = moduleTemplate ∨
      checkOutdatedStatus semver moduleName moduleTemplate moduleStatus =
        { moduleTemplate with outdated := true } := by
  unfold checkOutdatedStatus
  split_ifs
  · exact checkForOutdatedTemplate_cases semver moduleTemplate moduleStatus
  · exact .inl rfl

theorem checkOutdatedStatus_moduleTemplate (moduleName : String) (moduleTemplate : ModuleTemplateTO)
    (moduleStatus : ModuleStatus) :
    (checkOutdatedStatus semver moduleName moduleTemplate moduleStatus).moduleTemplate =
      moduleTemplate.moduleTemplate := by
  rcases checkOutdatedStatus_cases semver moduleName moduleTemplate moduleStatus with h | h <;> rw [h]

theorem checkOutdatedStatus_outdated (moduleName : String) {moduleTemplate : ModuleTemplateTO}
    (h : moduleTemplate.outdated = true) (moduleStatus : ModuleStatus) :
    (checkOutdatedStatus semver moduleName moduleTemplate moduleStatus).outdated = true := by
  rcases checkOutdatedStatus_cases semver moduleName moduleTemplate moduleStatus with h' | h' <;>
    simp [h', h]

theorem foldl_checkOutdatedStatus_of_skew (moduleName : String) {template : ModuleTemplate}
    {moduleStatus : ModuleStatus} {tracked : TrackingObject} (hfqdn : moduleStatus.fqdn = moduleName)
    (htracked : moduleStatus.template = some tracked) (hskew : template.generation ≠ tracked.generation)
    (statuses : List ModuleStatus) (moduleTemplate : ModuleTemplateTO)
    (htemplate : moduleTemplate.moduleTemplate = some template)
    (h : moduleTemplate.outdated = true ∨ moduleStatus ∈ statuses) :
    (statuses.foldl (checkOutdatedStatus semver moduleName) moduleTemplate).outdated = true := by
  induction statuses generalizing moduleTemplate with
  | nil => simpa using h
  | cons status statuses ih =>
    refine ih _ (by rw [checkOutdatedStatus_moduleTemplate, htemplate]) ?_
    rcases h with h | h
    · exact .inl (checkOutdatedStatus_outdated semver moduleName h status)
    rcases List.mem_cons.mp h with rfl | h
    · left
      simp only [checkOutdatedStatus, hfqdn, htemplate, Option.isSome_some, and_self, if_true]
      exact checkForOutdatedTemplate_generation_skew semver htemplate htracked hskew
    · exact .inr h

theorem checkForOutdatedTemplates_eq (kyma : Kyma) (templates : ModuleTemplatesByModuleName) :
    checkForOutdatedTemplates semver kyma templates = templates :=
  List.foldl_fixed' (fun _ => rfl) _

end Outdated

@[simp]
theorem lookupModule_outdated (DefaultChannel : String)
    (kymaClient runtimeClient : Except String (List ModuleTemplate)) (kyma : Kyma) (module : Module) :
    (lookupModule DefaultChannel kymaClient runtimeClient kyma module).outdated = false := by
  unfold lookupModule
  split
  · simp
  · split <;> simp

theorem visibility_cases (kyma : Kyma) (moduleTemplate : ModuleTemplateTO) :
    visibility kyma moduleTemplate = moduleTemplate ∨
      ∃ audience, visibility kyma moduleTemplate =
        { moduleTemplate with err := some (.templateNotAllowed audience) } := by
  unfold visibility
  split
  · dsimp only
    split_ifs
    all_goals first | exact .inl rfl | exact .inr ⟨_, rfl⟩
  · exact .inl rfl

@[simp]
theorem visibility_outdated (kyma : Kyma) (moduleTemplate : ModuleTemplateTO) :
    (visibility kyma moduleTemplate).outdated = moduleTemplate.outdated := by
  rcases visibility_cases kyma moduleTemplate with h | ⟨_, h⟩ <;> rw [h]

@[simp]
theorem visibility_desiredChannel (kyma : Kyma) (moduleTemplate : ModuleTemplateTO) :
    (visibility kyma moduleTemplate).desiredChannel = moduleTemplate.desiredChannel := by
  rcases visibility_cases kyma moduleTemplate with h | ⟨_, h⟩ <;> rw [h]

@[simp]
theorem visibility_moduleTemplate (kyma : Kyma) (moduleTemplate : ModuleTemplateTO) :
    (visibility kyma moduleTemplate).moduleTemplate = moduleTemplate.moduleTemplate := by
  rcases visibility_cases kyma moduleTemplate with h | ⟨_, h⟩ <;> rw [h]

theorem visibility_gate {kyma : Kyma} {moduleTemplate : ModuleTemplateTO} {template : ModuleTemplate}
    (htemplate : moduleTemplate.moduleTemplate = some template)
    (herr : (visibility kyma moduleTemplate).err = none) :
    (template.internal = true → kyma.internal = true) ∧ (template.beta = true → kyma.beta = true) := by
  unfold visibility at herr
  cases he : moduleTemplate.err with
  | some err => simp [he, htemplate] at herr
  | none =>
    simp only [he, htemplate] at herr
    split_ifs at herr with hbeta hinternal
    exact ⟨fun h => by simpa [h] using hinternal, fun h => by simpa [h] using hbeta⟩

def NeverOutdated (templates : ModuleTemplatesByModuleName) : Prop :=
  ∀ m moduleTemplate, templates.lookup m = some moduleTemplate → moduleTemplate.outdated = false

theorem NeverOutdated.insert {templates : ModuleTemplatesByModuleName} (h : NeverOutdated templates)
    (moduleName : String) {moduleTemplate : ModuleTemplateTO} (hfresh : moduleTemplate.outdated = false) :
    NeverOutdated (templates.insert moduleName moduleTemplate) := by
  intro m mt hm
  by_cases hk : m = moduleName
  · subst hk
    rw [AList.lookup_insert] at hm
    exact Option.some.inj hm ▸ hfresh
  · exact h m mt (by rwa [AList.lookup_insert_ne hk] at hm)

theorem getTemplates_neverOutdated {Version : Type} (semver : Semver Version) (DefaultChannel : String)
    (kymaClient runtimeClient : Except String (List ModuleTemplate)) (kyma : Kyma) :
    NeverOutdated (getTemplates semver DefaultChannel kymaClient runtimeClient kyma) := by
  have hloop : ∀ (modules : List Module) (templates : ModuleTemplatesByModuleName),
      NeverOutdated templates → NeverOutdated (modules.foldl (fun templates module =>
        templates.insert module.name
          (lookupModule DefaultChannel kymaClient runtimeClient kyma module)) templates) := by
    intro modules
    induction modules with
    | nil => exact fun _ h => h
    | cons module modules ih => exact fun templates h => ih _ (h.insert _ (lookupModule_outdated ..))
  intro m mt hm
  simp only [getTemplates, checkForOutdatedTemplates_eq, determineTemplatesVisibility,
    lookup_rangeUpdate, Option.map_eq_some'] at hm
  obtain ⟨mt', hm', rfl⟩ := hm
  rw [visibility_outdated]
  exact hloop _ ∅ (by simp [NeverOutdated]) m mt' hm'

theorem getTemplates_drops_outdated_verdict {Version : Type} (semver : Semver Version)
    (DefaultChannel : String) (kymaClient runtimeClient : Except String (List ModuleTemplate)) (kyma : Kyma)
    {moduleName : String} {moduleTemplate : ModuleTemplateTO} {template : ModuleTemplate}
    {moduleStatus : ModuleStatus} {tracked : TrackingObject}
    (hlookup : (getTemplates semver DefaultChannel kymaClient runtimeClient kyma).lookup moduleName =
      some moduleTemplate)
    (htemplate : moduleTemplate.moduleTemplate = some template) (hstatus : moduleStatus ∈ kyma.statusModules)
    (hfqdn : moduleStatus.fqdn = moduleName) (htracked : moduleStatus.template = some tracked)
    (hskew : template.generation ≠ tracked.generation) :
    (checkOutdatedCopy semver kyma moduleName moduleTemplate).outdated = true ∧
      moduleTemplate.outdated = false :=
  ⟨foldl_checkOutdatedStatus_of_skew semver moduleName hfqdn htracked hskew _ _ htemplate (.inr hstatus),
    getTemplates_neverOutdated semver DefaultChannel kymaClient runtimeClient kyma moduleName _ hlookup⟩

theorem getTemplates_visibility {Version : Type} (semver : Semver Version) (DefaultChannel : String)
    (kymaClient runtimeClient : Except String (List ModuleTemplate)) (kyma : Kyma) {moduleName : String}
    {moduleTemplate : ModuleTemplateTO} {template : ModuleTemplate}
    (hlookup : (getTemplates semver DefaultChannel kymaClient runtimeClient kyma).lookup moduleName =
      some moduleTemplate)
    (htemplate : moduleTemplate.moduleTemplate = some template) (herr : moduleTemplate.err = none) :
    (template.internal = true → kyma.internal = true) ∧ (template.beta = true → kyma.beta = true) := by
  simp only [getTemplates, checkForOutdatedTemplates_eq, determineTemplatesVisibility,
    lookup_rangeUpdate, Option.map_eq_some'] at hlookup
  obtain ⟨moduleTemplate, -, rfl⟩ := hlookup
  exact visibility_gate (by rwa [visibility_moduleTemplate] at htemplate) herr

theorem getTemplates_lookup_last_module {Version : Type} (semver : Semver Version) (DefaultChannel : String)
    (kymaClient runtimeClient : Except String (List ModuleTemplate)) (kyma : Kyma) (moduleName : String) :
    (getTemplates semver DefaultChannel kymaClient runtimeClient kyma).lookup moduleName =
      (kyma.modules.reverse.find? (·.name == moduleName)).map fun module =>
        visibility kyma (lookupModule DefaultChannel kymaClient runtimeClient kyma module) := by
  have h := lookup_foldl_insert (·.name) (lookupModule DefaultChannel kymaClient runtimeClient kyma)
    kyma.modules ∅ moduleName
  rw [AList.lookup_empty, Option.or_none] at h
  simp only [getTemplates, checkForOutdatedTemplates_eq, determineTemplatesVisibility, lookup_rangeUpdate]
  rw [h, Option.map_map]
  rfl

theorem TemplateLookup.getTemplate_ok_mem {c : TemplateLookup} {desiredChannel : String}
    {template : ModuleTemplate} (h : c.getTemplate desiredChannel = .ok template) :
    ∃ items, c.reader = .ok items ∧ template ∈ items := by
  unfold TemplateLookup.getTemplate at h
  split at h
  · cases h
  · rename_i items hreader
    split at h
    · cases h
    · rename_i filtered hfilter
      match filtered, h with
      | [_], h =>
        cases h
        exact ⟨items, hreader, (filterTemplates_ok_mem _ hfilter (List.mem_singleton_self _)).1⟩

theorem TemplateLookup.withContext_of_moduleTemplate {DefaultChannel : String} {c : TemplateLookup}
    {T : ModuleTemplate} (h : (c.withContext DefaultChannel).moduleTemplate = some T) :
    (∃ items, c.reader = .ok items ∧ T ∈ items) ∧
      T.channel = (c.withContext DefaultChannel).desiredChannel ∧ T.channel ≠ "" := by
  unfold TemplateLookup.withContext at h ⊢
  cases hget : c.getTemplate (c.getDesiredChannel DefaultChannel) with
  | error err => simp [hget] at h
  | ok T' =>
    by_cases hc : T'.channel = ""
    · simp [hget, hc] at h
    · simp only [hget, hc, if_false, Option.some.injEq] at h ⊢
      subst h
      exact ⟨TemplateLookup.getTemplate_ok_mem hget, TemplateLookup.getTemplate_ok_channel hget, hc⟩

theorem lookupModule_of_moduleTemplate {DefaultChannel : String}
    {kymaClient runtimeClient : Except String (List ModuleTemplate)} {kyma : Kyma} {module : Module}
    {T : ModuleTemplate} (h : (lookupModule DefaultChannel kymaClient runtimeClient kyma module).moduleTemplate = some T) :
    ((module.remoteModuleTemplateRef = "" ∧ ∃ items, kymaClient = .ok items ∧ T ∈ items) ∨
      (module.remoteModuleTemplateRef ≠ "" ∧ kyma.syncEnabled = true ∧
        ∃ items, runtimeClient = .ok items ∧ T ∈ items)) ∧
      T.channel = (lookupModule DefaultChannel kymaClient runtimeClient kyma module).desiredChannel ∧
      T.channel ≠ "" := by
  unfold lookupModule at h ⊢
  split_ifs at h ⊢ with hremote hsync
  · obtain ⟨hmem, hchannel⟩ := TemplateLookup.withContext_of_moduleTemplate h
    exact ⟨.inl ⟨hremote, hmem⟩, hchannel⟩
  · obtain ⟨hmem, hchannel⟩ := TemplateLookup.withContext_of_moduleTemplate h
    exact ⟨.inr ⟨hremote, hsync, hmem⟩, hchannel⟩

theorem getTemplates_entry_of_lookup {Version : Type} (semver : Semver Version) (DefaultChannel : String)
    (kymaClient runtimeClient : Except String (List ModuleTemplate)) (kyma : Kyma) {moduleName : String}
    {moduleTemplate : ModuleTemplateTO}
    (hlookup : (getTemplates semver DefaultChannel kymaClient runtimeClient kyma).lookup moduleName =
      some moduleTemplate) :
    ∃ module ∈ kyma.modules, module.name = moduleName ∧
      moduleTemplate = visibility kyma (lookupModule DefaultChannel kymaClient runtimeClient kyma module) := by
  have h := lookup_foldl_insert (·.name) (lookupModule DefaultChannel kymaClient runtimeClient kyma)
    kyma.modules ∅ moduleName
  rw [AList.lookup_empty, Option.or_none] at h
  simp only [getTemplates, checkForOutdatedTemplates_eq, determineTemplatesVisibility, lookup_rangeUpdate, h,
    Option.map_map, Option.map_eq_some'] at hlookup
  obtain ⟨module, hfind, rfl⟩ := hlookup
  exact ⟨module, List.mem_reverse.mp (List.mem_of_find?_eq_some hfind), by simpa using List.find?_some hfind, rfl⟩

theorem getTemplates_template_provenance {Version : Type} (semver : Semver Version) (DefaultChannel : String)
    (kymaClient runtimeClient : Except String (List ModuleTemplate)) (kyma : Kyma) {moduleName : String}
    {moduleTemplate : ModuleTemplateTO} {T : ModuleTemplate}
    (hlookup : (getTemplates semver DefaultChannel kymaClient runtimeClient kyma).lookup moduleName =
      some moduleTemplate)
    (hT : moduleTemplate.moduleTemplate = some T) :
    ∃ module ∈ kyma.modules, module.name = moduleName ∧
      ((module.remoteModuleTemplateRef = "" ∧ ∃ items, kymaClient = .ok items ∧ T ∈ items) ∨
        (module.remoteModuleTemplateRef ≠ "" ∧ kyma.syncEnabled = true ∧
          ∃ items, runtimeClient = .ok items ∧ T ∈ items)) ∧
      T.channel = moduleTemplate.desiredChannel ∧ T.channel ≠ "" := by
  obtain ⟨module, hmem, hname, rfl⟩ := getTemplates_entry_of_lookup semver DefaultChannel kymaClient runtimeClient
    kyma hlookup
  rw [visibility_moduleTemplate] at hT
  rw [visibility_desiredChannel]
  exact ⟨module, hmem, hname, lookupModule_of_moduleTemplate hT⟩

def bumpedTemplate : ModuleTemplate :=
  { name := "template-operator-regular", ns := "kcp-system", generation := 2,
    moduleNameLabel := "template-operator", internal := false, beta := false,
    channel := "regular", mandatory := false,
    descriptor := .ok ⟨"kyma-project.io/module/template-operator", "1.0.0", "v2"⟩ }

def staleKyma : Kyma :=
  { channel := "regular", modules := [operatorModule], availableModules := [],
    statusModules := [⟨"template-operator", "template-operator", "regular", "1.0.0", some ⟨1⟩⟩],
    internal := false, beta := false, syncEnabled := false }

theorem getTemplates_loses_outdated_verdict {Version : Type} (semver : Semver Version)
    (DefaultChannel : String) (runtimeClient : Except String (List ModuleTemplate)) :
    (checkOutdatedCopy semver staleKyma "template-operator"
        ⟨some bumpedTemplate, false, none, "regular"⟩).outdated = true ∧
      (getTemplates semver DefaultChannel (.ok [bumpedTemplate]) runtimeClient staleKyma).lookup
        "template-operator" = some ⟨some bumpedTemplate, false, none, "regular"⟩ :=
  have hlookup : (getTemplates semver DefaultChannel (.ok [bumpedTemplate]) runtimeClient staleKyma).lookup
      "template-operator" = some ⟨some bumpedTemplate, false, none, "regular"⟩ := by
    rw [getTemplates, checkForOutdatedTemplates_eq]
    rfl
  ⟨(getTemplates_drops_outdated_verdict semver DefaultChannel _ runtimeClient staleKyma hlookup rfl
    (List.mem_singleton_self _) rfl rfl (by decide)).1, hlookup⟩

theorem getTemplates_visibility_stale :
    (getTemplates releaseSemver "regular" (.ok [bumpedTemplate]) (.ok []) staleKyma).lookup "template-operator" =
        some ⟨some bumpedTemplate, false, none, "regular"⟩ ∧
      (⟨some bumpedTemplate, false, none, "regular"⟩ : ModuleTemplateTO).moduleTemplate = some bumpedTemplate ∧
      (⟨some bumpedTemplate, false, none, "regular"⟩ : ModuleTemplateTO).err = none ∧
      (bumpedTemplate.internal = true → staleKyma.internal = true) ∧
      (bumpedTemplate.beta = true → staleKyma.beta = true) :=
  have hlookup : (getTemplates releaseSemver "regular" (.ok [bumpedTemplate]) (.ok []) staleKyma).lookup
      "template-operator" = some ⟨some bumpedTemplate, false, none, "regular"⟩ := by
    rw [getTemplates, checkForOutdatedTemplates_eq]
    rfl
  ⟨hlookup, rfl, rfl, getTemplates_visibility releaseSemver "regular" _ _ staleKyma hlookup rfl rfl⟩

theorem getTemplates_template_provenance_stale :
    (getTemplates releaseSemver "regular" (.ok [bumpedTemplate]) (.ok []) staleKyma).lookup "template-operator" =
        some ⟨some bumpedTemplate, false, none, "regular"⟩ ∧
      (⟨some bumpedTemplate, false, none, "regular"⟩ : ModuleTemplateTO).moduleTemplate = some bumpedTemplate ∧
      ∃ module ∈ staleKyma.modules, module.name = "template-operator" ∧
        ((module.remoteModuleTemplateRef = "" ∧ ∃ items, (.ok [bumpedTemplate] : Except String _) = .ok items ∧
            bumpedTemplate ∈ items) ∨
          (module.remoteModuleTemplateRef ≠ "" ∧ staleKyma.syncEnabled = true ∧
            ∃ items, (.ok [] : Except String (List ModuleTemplate)) = .ok items ∧ bumpedTemplate ∈ items)) ∧
        bumpedTemplate.channel = "regular" ∧ bumpedTemplate.channel ≠ "" :=
  have hlookup : (getTemplates releaseSemver "regular" (.ok [bumpedTemplate]) (.ok []) staleKyma).lookup
      "template-operator" = some ⟨some bumpedTemplate, false, none, "regular"⟩ := by
    rw [getTemplates, checkForOutdatedTemplates_eq]
    rfl
  ⟨hlookup, rfl, getTemplates_template_provenance releaseSemver "regular" _ _ staleKyma hlookup rfl⟩

def fastStatus : ModuleStatus := ⟨"template-operator", "template-operator", "fast", "2.0.0", some ⟨1⟩⟩

theorem checkForOutdatedTemplate_marks_downgrade :
    (⟨some bumpedTemplate, false, none, "regular"⟩ : ModuleTemplateTO).outdated = false ∧
      fastStatus.template.isSome ∧ fastStatus.channel ≠ bumpedTemplate.channel ∧
      bumpedTemplate.descriptor = .ok ⟨"kyma-project.io/module/template-operator", "1.0.0", "v2"⟩ ∧
      releaseSemver.newVersion "1.0.0" = .ok (1, 0, 0) ∧
      releaseSemver.newVersion fastStatus.version = .ok (2, 0, 0) ∧
      releaseSemver.greaterThan (2, 0, 0) (1, 0, 0) = true ∧
      (checkForOutdatedTemplate releaseSemver ⟨some bumpedTemplate, false, none, "regular"⟩
        fastStatus).outdated = true := by
  decide

end KymaOperator.Channel
