import KymaOperator.Templatelookup.Regular

namespace KymaOperator.Templatelookup

section Pass

variable {Version : Type} (semver : Semver Version) (DefaultChannel : String)
  (t : TemplateLookup) (kyma : Kyma)

theorem moduleEntry_of_lookup {m : String} {info : ModuleTemplateInfo}
    (h : (getRegularTemplates semver DefaultChannel t kyma).lookup m = some info) :
    ∃ module ∈ kyma.availableModules, module.name = m ∧
      info = moduleEntry semver DefaultChannel t kyma module := by
  rw [getRegularTemplates_lookup, Option.map_eq_some'] at h
  obtain ⟨module, hfind, rfl⟩ := h
  exact ⟨module, List.mem_of_find?_eq_some hfind, by simpa using List.find?_some hfind, rfl⟩

theorem getRegularTemplates_no_silent_downgrade {m : String} {info : ModuleTemplateInfo}
    {T : ModuleTemplate} (hentry : (getRegularTemplates semver DefaultChannel t kyma).lookup m = some info)
    (herr : info.err = none) (hT : info.moduleTemplate = some T) :
    ∀ s ∈ kyma.statusModules, s.fqdn = m ∨ s.name = m → s.template.isSome →
      s.channel ≠ T.channel → UpdateAllowed semver t.descriptorProvider T s := by
  obtain ⟨module, -, rfl, rfl⟩ := moduleEntry_of_lookup semver DefaultChannel t kyma hentry
  cases hv : module.valid
  · simp [moduleEntry, hv] at herr
  · simp only [moduleEntry, hv, if_true, checkStatuses_moduleTemplate] at herr hT
    intro s hs hm ht hc
    exact ((checkStatuses_err semver t.descriptorProvider hT _).mp herr).2 s hs (moduleMatch_eq_true.mpr hm) ht
      (Ne.symm hc)

end Pass

def operatorTemplate : ModuleTemplate :=
  { name := "template-operator-regular", ns := "kcp-system", generation := 2,
    moduleNameLabel := "template-operator", internal := false, beta := false,
    channel := "regular", mandatory := false,
    descriptor := .ok ⟨"kyma-project.io/module/template-operator", "1.1.0", "v2"⟩ }

def operatorLookup : TemplateLookup := ⟨.ok [operatorTemplate], .decoding⟩

def switchedKyma : Kyma :=
  { channel := "regular", modules := [⟨"template-operator", "", ""⟩],
    availableModules := [⟨⟨"template-operator", "", ""⟩, true⟩],
    statusModules := [⟨"template-operator", "template-operator", "regular", "1.1.0", some ⟨1⟩⟩,
      ⟨"template-operator", "", "fast", "1.0.0", some ⟨1⟩⟩],
    internal := false, beta := false, syncEnabled := false }

theorem getRegularTemplates_no_silent_downgrade_switched :
    (getRegularTemplates releaseSemver "regular" operatorLookup switchedKyma).lookup
        "template-operator" = some ⟨some operatorTemplate, none, "regular"⟩ ∧
      (⟨some operatorTemplate, none, "regular"⟩ : ModuleTemplateInfo).err = none ∧
      (⟨some operatorTemplate, none, "regular"⟩ : ModuleTemplateInfo).moduleTemplate =
        some operatorTemplate ∧
      ∀ s ∈ switchedKyma.statusModules, s.fqdn = "template-operator" ∨ s.name = "template-operator" →
        s.template.isSome → s.channel ≠ operatorTemplate.channel →
          UpdateAllowed releaseSemver operatorLookup.descriptorProvider operatorTemplate s :=
  ⟨by decide, rfl, rfl, @getRegularTemplates_no_silent_downgrade _ releaseSemver "regular"
    operatorLookup switchedKyma "template-operator" ⟨some operatorTemplate, none, "regular"⟩
    operatorTemplate (by decide) rfl rfl⟩

def internalTemplate : ModuleTemplate := { operatorTemplate with internal := true }

def externalKyma : Kyma := { switchedKyma with statusModules := [] }

theorem getRegularTemplates_keeps_internal_template {Version : Type} (semver : Semver Version)
    (DefaultChannel : String) (dp : CachedDescriptorProvider) :
    (getRegularTemplates semver DefaultChannel ⟨.ok [internalTemplate], dp⟩ externalKyma).lookup
        "template-operator" = some ⟨some internalTemplate, none, "regular"⟩ ∧
      (filterTemplate dp ⟨some internalTemplate, none, "regular"⟩ externalKyma).err =
        some (.templateNotAllowed "internal module") :=
  ⟨rfl, rfl⟩

section Pass

variable {Version : Type} (semver : Semver Version) (DefaultChannel : String)
  (t : TemplateLookup) (kyma : Kyma)

theorem getRegularTemplates_blocks_only_downgrades {module : AvailableModule} {T : ModuleTemplate}
    (hfirst : kyma.availableModules.find? (·.name == module.name) = some module)
    (hvalid : module.valid = true)
    (hget : (t.getAndValidate DefaultChannel module.name module.channel kyma.channel).moduleTemplate =
      some T)
    (_hadd : t.descriptorProvider.add T = .ok ())
    (_hinternal : T.internal = true → kyma.internal = true)
    (_hbeta : T.beta = true → kyma.beta = true)
    (hstatus : ∀ s ∈ kyma.statusModules, moduleMatch s module.name = true → s.template.isSome →
      s.channel = T.channel ∨ UpdateAllowed semver t.descriptorProvider T s) :
    (getRegularTemplates semver DefaultChannel t kyma).lookup module.name =
      some ⟨some T, none, getDesiredChannel DefaultChannel module.channel kyma.channel⟩ := by
  rw [getRegularTemplates_lookup, hfirst, Option.map_some', moduleEntry, if_pos hvalid,
    getAndValidate_of_moduleTemplate hget]
  have herr := (@checkStatuses_err _ semver t.descriptorProvider module.name
    ⟨some T, none, getDesiredChannel DefaultChannel module.channel kyma.channel⟩ T rfl
    kyma.statusModules).mpr
    ⟨rfl, fun s hs hm ht hc => (hstatus s hs hm ht).resolve_left (Ne.symm hc)⟩
  exact congrArg some (ModuleTemplateInfo.ext (by simp) herr (by simp))

end Pass

theorem getRegularTemplates_blocks_only_downgrades_switched :
    switchedKyma.availableModules.find? (·.name == "template-operator") =
        some ⟨⟨"template-operator", "", ""⟩, true⟩ ∧
      (operatorLookup.getAndValidate "regular" "template-operator" "" switchedKyma.channel).moduleTemplate =
        some operatorTemplate ∧
      (∀ s ∈ switchedKyma.statusModules, moduleMatch s "template-operator" = true →
        s.template.isSome → s.channel = operatorTemplate.channel ∨
          UpdateAllowed releaseSemver operatorLookup.descriptorProvider operatorTemplate s) ∧
      (getRegularTemplates releaseSemver "regular" operatorLookup switchedKyma).lookup
        "template-operator" = some ⟨some operatorTemplate, none, "regular"⟩ := by
  have hstatus : ∀ s ∈ switchedKyma.statusModules, moduleMatch s "template-operator" = true →
      s.template.isSome → s.channel = operatorTemplate.channel ∨
        UpdateAllowed releaseSemver operatorLookup.descriptorProvider operatorTemplate s := by
    simp only [switchedKyma, List.mem_cons, List.mem_singleton, List.not_mem_nil, or_false]
    rintro s (rfl | rfl) - -
    · exact Or.inl rfl
    · exact Or.inr ⟨_, _, _, rfl, rfl, rfl, rfl⟩
  exact ⟨rfl, by decide, hstatus, @getRegularTemplates_blocks_only_downgrades _ releaseSemver
    "regular" operatorLookup switchedKyma ⟨⟨"template-operator", "", ""⟩, true⟩ operatorTemplate
    rfl rfl (by decide) rfl (by decide) (by decide) hstatus⟩

def invalidModule : AvailableModule := ⟨⟨"template-operator", "", ""⟩, false⟩

def invalidKyma : Kyma := { externalKyma with availableModules := [invalidModule] }

theorem getRegularTemplates_rejects_invalid_module :
    invalidKyma.availableModules.find? (·.name == invalidModule.name) = some invalidModule ∧
      (operatorLookup.getAndValidate "regular" invalidModule.name invalidModule.channel
        invalidKyma.channel).moduleTemplate = some operatorTemplate ∧
      operatorLookup.descriptorProvider.add operatorTemplate = .ok () ∧
      operatorTemplate.internal = false ∧ operatorTemplate.beta = false ∧
      invalidKyma.statusModules = [] ∧
      (getRegularTemplates releaseSemver "regular" operatorLookup invalidKyma).lookup
        invalidModule.name = some ⟨none, some .templateNotValid, ""⟩ := by
  decide

theorem TemplateLookup.getTemplate_ok_mem {t : TemplateLookup} {name desiredChannel : String}
    {template : ModuleTemplate} (h : t.getTemplate name desiredChannel = .ok template) :
    (∃ items, t.reader = .ok items ∧ template ∈ items) ∧ template.mandatory = false := by
  unfold TemplateLookup.getTemplate at h
  split at h
  · cases h
  · rename_i items hreader
    split at h
    · cases h
    · rename_i filtered hfilter
      obtain ⟨rfl, hmandatory⟩ := selectTemplate_ok h
      exact ⟨⟨items, hreader, (filterTemplates_ok_mem _ hfilter (List.mem_singleton_self _)).1⟩, hmandatory⟩

@[simp]
theorem getAndValidate_desiredChannel (DefaultChannel : String) (t : TemplateLookup)
    (name channel defaultChannel : String) :
    (t.getAndValidate DefaultChannel name channel defaultChannel).desiredChannel =
      getDesiredChannel DefaultChannel channel defaultChannel := by
  unfold TemplateLookup.getAndValidate
  dsimp only
  split
  · rfl
  · split_ifs <;> rfl

theorem getAndValidate_moduleTemplate_eq_some {DefaultChannel : String} {t : TemplateLookup}
    {name channel defaultChannel : String} {T : ModuleTemplate} :
    (t.getAndValidate DefaultChannel name channel defaultChannel).moduleTemplate = some T ↔
      t.getTemplate name (getDesiredChannel DefaultChannel channel defaultChannel) = .ok T ∧ T.channel ≠ "" := by
  unfold TemplateLookup.getAndValidate
  cases hg : t.getTemplate name (getDesiredChannel DefaultChannel channel defaultChannel) with
  | error err => simp [hg]
  | ok T' => by_cases hc : T'.channel = "" <;> simp [hg, hc] <;> rintro rfl <;> exact hc

theorem getAndValidate_err_of_moduleTemplate_none {DefaultChannel : String} {t : TemplateLookup}
    {name channel defaultChannel : String}
    (h : (t.getAndValidate DefaultChannel name channel defaultChannel).moduleTemplate = none) :
    (t.getAndValidate DefaultChannel name channel defaultChannel).err ≠ none := by
  unfold TemplateLookup.getAndValidate at h ⊢
  cases hg : t.getTemplate name (getDesiredChannel DefaultChannel channel defaultChannel) with
  | error err => simp [hg]
  | ok T' => by_cases hc : T'.channel = "" <;> simp_all

section Pass

variable {Version : Type} (semver : Semver Version) (DefaultChannel : String)
  (t : TemplateLookup) (kyma : Kyma)

theorem checkStatuses_of_moduleTemplate_none (name : String) {info : ModuleTemplateInfo}
    (h : info.moduleTemplate = none) (statuses : List ModuleStatus) :
    checkStatuses semver t.descriptorProvider name info statuses = info := by
  induction statuses with
  | nil => rfl
  | cons s statuses ih => simpa [checkStatuses, checkStatus, h] using ih

theorem getRegularTemplates_mem_iff (m : String) :
    m ∈ getRegularTemplates semver DefaultChannel t kyma ↔ ∃ module ∈ kyma.availableModules, module.name = m := by
  rw [← AList.lookup_isSome, getRegularTemplates_lookup]
  simp [List.find?_isSome]

theorem getRegularTemplates_entry_without_template_has_error {m : String} {info : ModuleTemplateInfo}
    (hentry : (getRegularTemplates semver DefaultChannel t kyma).lookup m = some info)
    (hnone : info.moduleTemplate = none) : info.err ≠ none := by
  obtain ⟨module, -, -, rfl⟩ := moduleEntry_of_lookup semver DefaultChannel t kyma hentry
  unfold moduleEntry at hnone ⊢
  split_ifs at hnone ⊢
  · rw [checkStatuses_moduleTemplate] at hnone
    rw [checkStatuses_of_moduleTemplate_none semver t module.name hnone]
    exact getAndValidate_err_of_moduleTemplate_none hnone
  · simp

theorem getRegularTemplates_template_listed_in_desired_channel {m : String} {info : ModuleTemplateInfo}
    {T : ModuleTemplate} (hentry : (getRegularTemplates semver DefaultChannel t kyma).lookup m = some info)
    (hT : info.moduleTemplate = some T) :
    (∃ items, t.reader = .ok items ∧ T ∈ items) ∧ T.mandatory = false ∧
      T.channel = info.desiredChannel ∧ T.channel ≠ "" := by
  obtain ⟨module, -, -, rfl⟩ := moduleEntry_of_lookup semver DefaultChannel t kyma hentry
  unfold moduleEntry at hT ⊢
  split_ifs at hT ⊢
  · rw [checkStatuses_moduleTemplate, getAndValidate_moduleTemplate_eq_some] at hT
    obtain ⟨hget, hchannel⟩ := hT
    rw [checkStatuses_desiredChannel, getAndValidate_desiredChannel]
    exact ⟨(TemplateLookup.getTemplate_ok_mem hget).1, (TemplateLookup.getTemplate_ok_mem hget).2,
      TemplateLookup.getTemplate_ok_channel hget, hchannel⟩

end Pass

theorem getRegularTemplates_entry_without_template_has_error_invalid :
    (getRegularTemplates releaseSemver "regular" operatorLookup invalidKyma).lookup "template-operator" =
        some ⟨none, some .templateNotValid, ""⟩ ∧
      (⟨none, some .templateNotValid, ""⟩ : ModuleTemplateInfo).moduleTemplate = none ∧
      (⟨none, some .templateNotValid, ""⟩ : ModuleTemplateInfo).err ≠ none :=
  have hentry : (getRegularTemplates releaseSemver "regular" operatorLookup invalidKyma).lookup
      "template-operator" = some ⟨none, some .templateNotValid, ""⟩ := by
    decide
  ⟨hentry, rfl, getRegularTemplates_entry_without_template_has_error releaseSemver "regular" operatorLookup
    invalidKyma hentry rfl⟩

theorem getRegularTemplates_template_listed_in_desired_channel_switched :
    (getRegularTemplates releaseSemver "regular" operatorLookup switchedKyma).lookup "template-operator" =
        some ⟨some operatorTemplate, none, "regular"⟩ ∧
      (⟨some operatorTemplate, none, "regular"⟩ : ModuleTemplateInfo).moduleTemplate = some operatorTemplate ∧
      (∃ items, operatorLookup.reader = .ok items ∧ operatorTemplate ∈ items) ∧
      operatorTemplate.mandatory = false ∧ operatorTemplate.channel = "regular" ∧ operatorTemplate.channel ≠ "" :=
  have hentry : (getRegularTemplates releaseSemver "regular" operatorLookup switchedKyma).lookup
      "template-operator" = some ⟨some operatorTemplate, none, "regular"⟩ := by
    decide
  ⟨hentry, rfl, getRegularTemplates_template_listed_in_desired_channel releaseSemver "regular" operatorLookup
    switchedKyma hentry rfl⟩

end KymaOperator.Templatelookup
