import KymaOperator.Api

namespace KymaOperator.Templatelookup

def errTemplateNotIdentified : String := "no unique template could be identified"
def errNotDefaultChannelAllowed : String := "specifying no default channel is not allowed"
def errNoTemplatesInListResult : String := "no templates were found"
def errTemplateMarkedAsMandatory : String := "template marked as mandatory"
def errTemplateNotAllowed : String := "module template not allowed"
def errTemplateUpdateNotAllowed : String := "module template update not allowed"
def errTemplateNotValid : String := "given module template is not valid"

inductive LookupError where
  | listFailed (cause : String)
  | invalidDescriptor (cause : String)
  | templateNotIdentified (moduleName : String) (candidates : List String)
  | noTemplatesInListResult (desiredChannel name : String)
  | templateMarkedAsMandatory (desiredChannel name : String)
  | notDefaultChannelAllowed (name : String)
  | templateNotValid
  | descriptorNotFetched (cause : String)
  | templateNotAllowed (reason : String)
  | templateUpdateNotAllowed (msg : String)
  deriving DecidableEq, Repr

def LookupError.error : LookupError → String
  | .listFailed cause => "failed to list module templates on lookup: " ++ cause
  | .invalidDescriptor cause => "invalid ModuleTemplate descriptor: " ++ cause
  | .templateNotIdentified moduleName candidates => errTemplateNotIdentified ++
      ": more than one module template found for module: " ++ moduleName ++
      ", candidates: " ++ goStrings candidates
  | .noTemplatesInListResult desiredChannel name => errNoTemplatesInListResult ++
      ": in channel " ++ desiredChannel ++ " for module " ++ name
  | .templateMarkedAsMandatory desiredChannel name => errTemplateMarkedAsMandatory ++
      ": in channel " ++ desiredChannel ++ " for module " ++ name
  | .notDefaultChannelAllowed name =>
      "no channel found on template for module: " ++ name ++ ": " ++ errNotDefaultChannelAllowed
  | .templateNotValid => errTemplateNotValid ++ ": invalid module"
  | .descriptorNotFetched cause => "failed to get descriptor: " ++ cause
  | .templateNotAllowed reason => errTemplateNotAllowed ++ ": " ++ reason
  | .templateUpdateNotAllowed msg => errTemplateUpdateNotAllowed ++ ": " ++ msg

@[ext]
structure ModuleTemplateInfo where
  moduleTemplate : Option ModuleTemplate
  err : Option LookupError
  desiredChannel : String
  deriving DecidableEq, Repr

structure TemplateLookup where
  reader : Except String (List ModuleTemplate)
  descriptorProvider : CachedDescriptorProvider

abbrev ModuleTemplatesByModuleName := AList fun _ : String => ModuleTemplateInfo

def getDesiredChannel (DefaultChannel moduleChannel globalChannel : String) : String :=
  if moduleChannel ≠ "" then moduleChannel
  else if globalChannel ≠ "" then globalChannel
  else DefaultChannel

theorem getDesiredChannel_eq_find (DefaultChannel moduleChannel globalChannel : String) :
    getDesiredChannel DefaultChannel moduleChannel globalChannel =
      ([moduleChannel, globalChannel, DefaultChannel].find? (· != "")).getD "" := by
  unfold getDesiredChannel
  split_ifs <;> simp_all
  split <;> simp_all

theorem getDesiredChannel_ne_empty {DefaultChannel : String} (hdefault : DefaultChannel ≠ "")
    (moduleChannel globalChannel : String) :
    getDesiredChannel DefaultChannel moduleChannel globalChannel ≠ "" := by
  unfold getDesiredChannel
  split_ifs <;> assumption

def identifies (dp : CachedDescriptorProvider) (name desiredChannel : String)
    (template : ModuleTemplate) : Except LookupError Bool :=
  if template.moduleNameLabel == name && template.channel == desiredChannel then .ok true
  else if template.ns ++ "/" ++ template.name == name && template.channel == desiredChannel then
    .ok true
  else if template.name == name && template.channel == desiredChannel then .ok true
  else match dp.getDescriptor template with
    | .error err => .error (.invalidDescriptor err)
    | .ok descriptor => .ok (descriptor.name == name && template.channel == desiredChannel)

def selectTemplate (name desiredChannel : String) (items : List ModuleTemplate) :
    List ModuleTemplate → Except LookupError ModuleTemplate
  | [] => .error (.noTemplatesInListResult desiredChannel name)
  | [template] =>
    if template.mandatory then .error (.templateMarkedAsMandatory desiredChannel name)
    else .ok template
  | _ :: _ :: _ => .error (.templateNotIdentified name (items.map (·.name)))

def TemplateLookup.getTemplate (t : TemplateLookup) (name desiredChannel : String) :
    Except LookupError ModuleTemplate :=
  match t.reader with
  | .error err => .error (.listFailed err)
  | .ok items =>
    match filterTemplates (identifies t.descriptorProvider name desiredChannel) items with
    | .error err => .error err
    | .ok filteredTemplates => selectTemplate name desiredChannel items filteredTemplates

theorem identifies_channel {dp : CachedDescriptorProvider} {name desiredChannel : String}
    {template : ModuleTemplate} (h : identifies dp name desiredChannel template = .ok true) :
    template.channel = desiredChannel := by
  unfold identifies at h
  split_ifs at h <;> try split at h
  all_goals simp_all

theorem selectTemplate_ok {name desiredChannel : String} {items filtered : List ModuleTemplate}
    {template : ModuleTemplate} (h : selectTemplate name desiredChannel items filtered = .ok template) :
    filtered = [template] ∧ template.mandatory = false := by
  match filtered, h with
  | [_], h =>
    simp only [selectTemplate] at h
    split_ifs at h with hm
    cases h
    exact ⟨rfl, by simpa using hm⟩

theorem TemplateLookup.getTemplate_ok_channel {t : TemplateLookup} {name desiredChannel : String}
    {template : ModuleTemplate} (h : t.getTemplate name desiredChannel = .ok template) :
    template.channel = desiredChannel := by
  unfold TemplateLookup.getTemplate at h
  split at h
  · cases h
  · split at h
    · cases h
    · rename_i hfilter
      have hmem : template ∈ [template] := List.mem_singleton_self _
      rw [← (selectTemplate_ok h).1] at hmem
      exact identifies_channel (filterTemplates_ok_mem _ hfilter hmem).2

def TemplateLookup.getAndValidate (DefaultChannel : String) (t : TemplateLookup)
    (name channel defaultChannel : String) : ModuleTemplateInfo :=
  let desiredChannel := getDesiredChannel DefaultChannel channel defaultChannel
  match t.getTemplate name desiredChannel with
  | .error err => ⟨none, some err, desiredChannel⟩
  | .ok template =>
    if template.channel = "" then ⟨none, some (.notDefaultChannelAllowed name), desiredChannel⟩
    else ⟨some template, none, desiredChannel⟩

theorem getAndValidate_of_moduleTemplate {DefaultChannel : String} {t : TemplateLookup}
    {name channel defaultChannel : String} {T : ModuleTemplate}
    (h : (t.getAndValidate DefaultChannel name channel defaultChannel).moduleTemplate = some T) :
    t.getAndValidate DefaultChannel name channel defaultChannel =
      ⟨some T, none, getDesiredChannel DefaultChannel channel defaultChannel⟩ := by
  unfold TemplateLookup.getAndValidate at h ⊢
  cases hg : t.getTemplate name (getDesiredChannel DefaultChannel channel defaultChannel) with
  | error e => simp [hg] at h
  | ok T' => by_cases hc : T'.channel = "" <;> simp_all

def filterTemplate (dp : CachedDescriptorProvider) (template : ModuleTemplateInfo)
    (kyma : Kyma) : ModuleTemplateInfo :=
  match template.err, template.moduleTemplate with
  | none, some mt =>
    let template := match dp.add mt with
      | .error err => { template with err := some (.descriptorNotFetched err) }
      | .ok () => template
    if mt.internal && !kyma.internal then
      { template with err := some (.templateNotAllowed "internal module") }
    else if mt.beta && !kyma.beta then
      { template with err := some (.templateNotAllowed "beta module") }
    else template
  | _, _ => template

def moduleMatch (moduleStatus : ModuleStatus) (moduleName : String) : Bool :=
  moduleStatus.fqdn == moduleName || moduleStatus.name == moduleName

theorem moduleMatch_eq_true {moduleStatus : ModuleStatus} {moduleName : String} :
    moduleMatch moduleStatus moduleName = true ↔
      moduleStatus.fqdn = moduleName ∨ moduleStatus.name = moduleName := by
  simp [moduleMatch]

section Guard

variable {Version : Type} (semver : Semver Version) (dp : CachedDescriptorProvider)

def channelSkewRejection (template : ModuleTemplate) (moduleStatus : ModuleStatus) :
    Option String :=
  match dp.getDescriptor template with
  | .error _ => some "could not handle channel skew as descriptor from template cannot be fetched"
  | .ok descriptor =>
    match semver.newVersion descriptor.version with
    | .error _ =>
      some "could not handle channel skew as descriptor from template contains invalid version"
    | .ok versionInTemplate =>
      match semver.newVersion moduleStatus.version with
      | .error _ => some "could not handle channel skew as Modules contains invalid version"
      | .ok versionInStatus =>
        if semver.isValidVersionChange versionInTemplate versionInStatus then none
        else some ("ignore channel skew (from " ++ moduleStatus.channel ++ " to " ++
          template.channel ++ "), as a higher version (" ++ semver.toString versionInStatus ++
          ") of the module was previously installed")

def UpdateAllowed (template : ModuleTemplate) (moduleStatus : ModuleStatus) : Prop :=
  ∃ descriptor versionInTemplate versionInStatus,
    dp.getDescriptor template = .ok descriptor ∧
    semver.newVersion descriptor.version = .ok versionInTemplate ∧
    semver.newVersion moduleStatus.version = .ok versionInStatus ∧
    semver.isValidVersionChange versionInTemplate versionInStatus = true

theorem channelSkewRejection_eq_none {template : ModuleTemplate} {moduleStatus : ModuleStatus} :
    channelSkewRejection semver dp template moduleStatus = none ↔
      UpdateAllowed semver dp template moduleStatus := by
  unfold channelSkewRejection UpdateAllowed
  rcases dp.getDescriptor template with _ | d <;> simp only [reduceCtorEq, false_and,
    exists_false, Except.ok.injEq, exists_and_left, exists_eq_left']
  rcases semver.newVersion d.version with _ | vt <;> simp only [reduceCtorEq, false_and,
    exists_false, Except.ok.injEq, exists_eq_left']
  rcases semver.newVersion moduleStatus.version with _ | vs <;> simp

def checkValidTemplateUpdate (moduleTemplate : ModuleTemplateInfo)
    (moduleStatus : ModuleStatus) : ModuleTemplateInfo :=
  match moduleStatus.template, moduleTemplate.moduleTemplate with
  | some _, some template =>
    if template.channel ≠ moduleStatus.channel then
      match channelSkewRejection semver dp template moduleStatus with
      | some msg => { moduleTemplate with err := some (.templateUpdateNotAllowed msg) }
      | none => moduleTemplate
    else moduleTemplate
  | _, _ => moduleTemplate

theorem checkValidTemplateUpdate_cases (info : ModuleTemplateInfo) (s : ModuleStatus) :
    checkValidTemplateUpdate semver dp info s = info ∨
      ∃ msg, checkValidTemplateUpdate semver dp info s =
        { info with err := some (.templateUpdateNotAllowed msg) } := by
  unfold checkValidTemplateUpdate
  repeat' split
  all_goals first | exact .inl rfl | exact .inr ⟨_, rfl⟩

@[simp]
theorem checkValidTemplateUpdate_moduleTemplate (info : ModuleTemplateInfo) (s : ModuleStatus) :
    (checkValidTemplateUpdate semver dp info s).moduleTemplate = info.moduleTemplate := by
  rcases checkValidTemplateUpdate_cases semver dp info s with h | ⟨_, h⟩ <;> rw [h]

@[simp]
theorem checkValidTemplateUpdate_desiredChannel (info : ModuleTemplateInfo) (s : ModuleStatus) :
    (checkValidTemplateUpdate semver dp info s).desiredChannel = info.desiredChannel := by
  rcases checkValidTemplateUpdate_cases semver dp info s with h | ⟨_, h⟩ <;> rw [h]

theorem checkValidTemplateUpdate_err {info : ModuleTemplateInfo} {T : ModuleTemplate}
    (hT : info.moduleTemplate = some T) (s : ModuleStatus) :
    (checkValidTemplateUpdate semver dp info s).err = none ↔
      info.err = none ∧
        (s.template.isSome → T.channel ≠ s.channel → UpdateAllowed semver dp T s) := by
  rw [← channelSkewRejection_eq_none]
  unfold checkValidTemplateUpdate
  rw [hT]
  rcases s.template with _ | tr
  · simp
  · by_cases hc : T.channel = s.channel
    · simp [hc]
    · cases h : channelSkewRejection semver dp T s <;> simp [hc, h]

def checkStatus (name : String) (template : ModuleTemplateInfo) (moduleStatus : ModuleStatus) :
    ModuleTemplateInfo :=
  if moduleMatch moduleStatus name && template.moduleTemplate.isSome then
    checkValidTemplateUpdate semver dp template moduleStatus
  else template

def checkStatuses (name : String) (template : ModuleTemplateInfo)
    (statuses : List ModuleStatus) : ModuleTemplateInfo :=
  statuses.foldl (checkStatus semver dp name) template

@[simp]
theorem checkStatus_moduleTemplate (name : String) (info : ModuleTemplateInfo) (s : ModuleStatus) :
    (checkStatus semver dp name info s).moduleTemplate = info.moduleTemplate := by
  unfold checkStatus
  split <;> simp

@[simp]
theorem checkStatus_desiredChannel (name : String) (info : ModuleTemplateInfo) (s : ModuleStatus) :
    (checkStatus semver dp name info s).desiredChannel = info.desiredChannel := by
  unfold checkStatus
  split <;> simp

theorem checkStatus_err {name : String} {info : ModuleTemplateInfo} {T : ModuleTemplate}
    (hT : info.moduleTemplate = some T) (s : ModuleStatus) :
    (checkStatus semver dp name info s).err = none ↔
      info.err = none ∧ (moduleMatch s name = true → s.template.isSome →
        T.channel ≠ s.channel → UpdateAllowed semver dp T s) := by
  unfold checkStatus
  by_cases hm : moduleMatch s name = true
  · simp only [hm, hT, Option.isSome_some, Bool.and_self, if_true, forall_const]
    exact checkValidTemplateUpdate_err semver dp hT s
  · simp [hm]

@[simp]
theorem checkStatuses_moduleTemplate (name : String) (info : ModuleTemplateInfo)
    (statuses : List ModuleStatus) :
    (checkStatuses semver dp name info statuses).moduleTemplate = info.moduleTemplate := by
  induction statuses generalizing info with
  | nil => rfl
  | cons s statuses ih => exact (ih _).trans (checkStatus_moduleTemplate semver dp name info s)

@[simp]
theorem checkStatuses_desiredChannel (name : String) (info : ModuleTemplateInfo)
    (statuses : List ModuleStatus) :
    (checkStatuses semver dp name info statuses).desiredChannel = info.desiredChannel := by
  induction statuses generalizing info with
  | nil => rfl
  | cons s statuses ih => exact (ih _).trans (checkStatus_desiredChannel semver dp name info s)

theorem checkStatuses_err {name : String} {info : ModuleTemplateInfo} {T : ModuleTemplate}
    (hT : info.moduleTemplate = some T) (statuses : List ModuleStatus) :
    (checkStatuses semver dp name info statuses).err = none ↔
      info.err = none ∧ ∀ s ∈ statuses, moduleMatch s name = true → s.template.isSome →
        T.channel ≠ s.channel → UpdateAllowed semver dp T s := by
  induction statuses generalizing info with
  | nil => simp [checkStatuses]
  | cons s statuses ih =>
    have hT' : (checkStatus semver dp name info s).moduleTemplate = some T := by simpa using hT
    simp only [checkStatuses, List.foldl_cons] at ih ⊢
    rw [ih hT', checkStatus_err semver dp hT, List.forall_mem_cons, and_assoc]

end Guard

section Pass

variable {Version : Type} (semver : Semver Version) (DefaultChannel : String)
  (t : TemplateLookup) (kyma : Kyma)

def resolveModule (templates : ModuleTemplatesByModuleName) (module : AvailableModule) :
    ModuleTemplatesByModuleName :=
  if module.name ∈ templates then templates
  else if !module.valid then templates.insert module.name ⟨none, some .templateNotValid, ""⟩
  else
    let template := t.getAndValidate DefaultChannel module.name module.channel kyma.channel
    let templates := templates.insert module.name (filterTemplate t.descriptorProvider template kyma)
    let template := checkStatuses semver t.descriptorProvider module.name template kyma.statusModules
    templates.insert module.name template

def getRegularTemplates : ModuleTemplatesByModuleName :=
  kyma.availableModules.foldl (resolveModule semver DefaultChannel t kyma) ∅

def moduleEntry (module : AvailableModule) : ModuleTemplateInfo :=
  if module.valid then
    checkStatuses semver t.descriptorProvider module.name
      (t.getAndValidate DefaultChannel module.name module.channel kyma.channel) kyma.statusModules
  else ⟨none, some .templateNotValid, ""⟩

theorem resolveModule_eq (templates : ModuleTemplatesByModuleName) (module : AvailableModule) :
    resolveModule semver DefaultChannel t kyma templates module =
      if module.name ∈ templates then templates
      else templates.insert module.name (moduleEntry semver DefaultChannel t kyma module) := by
  unfold resolveModule moduleEntry
  split
  · rfl
  · cases module.valid <;> simp

def EntriesOf (pre : List AvailableModule) (templates : ModuleTemplatesByModuleName) : Prop :=
  ∀ m, templates.lookup m = (pre.find? (·.name == m)).map (moduleEntry semver DefaultChannel t kyma)

theorem resolveModule_entries {pre : List AvailableModule} {templates : ModuleTemplatesByModuleName}
    (h : EntriesOf semver DefaultChannel t kyma pre templates) (module : AvailableModule) :
    EntriesOf semver DefaultChannel t kyma (pre ++ [module])
      (resolveModule semver DefaultChannel t kyma templates module) := by
  intro m
  rw [resolveModule_eq, List.find?_append, List.find?_singleton]
  by_cases hmem : module.name ∈ templates
  · have hpre : (pre.find? (·.name == module.name)).isSome := by
      simpa [← AList.lookup_isSome, h module.name] using hmem
    rw [if_pos hmem, h m]
    by_cases hm : module.name = m
    · subst hm
      obtain ⟨y, hy⟩ := Option.isSome_iff_exists.mp hpre
      simp [hy]
    · simp [hm]
  · have hpre : pre.find? (·.name == module.name) = none := by
      simpa [← AList.lookup_eq_none, h module.name] using hmem
    rw [if_neg hmem]
    by_cases hm : module.name = m
    · subst hm
      simp [hpre]
    · rw [AList.lookup_insert_ne (Ne.symm hm), h m]
      simp [hm]

theorem foldl_resolveModule_entries {pre : List AvailableModule}
    {templates : ModuleTemplatesByModuleName} (h : EntriesOf semver DefaultChannel t kyma pre templates)
    (modules : List AvailableModule) :
    EntriesOf semver DefaultChannel t kyma (pre ++ modules)
      (modules.foldl (resolveModule semver DefaultChannel t kyma) templates) := by
  induction modules generalizing pre templates with
  | nil => simpa using h
  | cons module modules ih =>
    rw [List.foldl_cons, ← List.singleton_append, ← List.append_assoc]
    exact ih (resolveModule_entries semver DefaultChannel t kyma h module)

theorem getRegularTemplates_lookup (m : String) :
    (getRegularTemplates semver DefaultChannel t kyma).lookup m =
      (kyma.availableModules.find? (·.name == m)).map (moduleEntry semver DefaultChannel t kyma) :=
  foldl_resolveModule_entries semver DefaultChannel t kyma
    (show EntriesOf semver DefaultChannel t kyma [] ∅ by simp [EntriesOf]) kyma.availableModules m

end Pass

end KymaOperator.Templatelookup
