import KymaOperator.Templatelookup.Resolution

namespace KymaOperator.Channel

def errTemplateNotIdentified : String := "no unique template could be identified"
def errNotDefaultChannelAllowed : String := "specifying no default channel is not allowed"
def errNoTemplatesInListResult : String := "no templates were found during listing"
def errInvalidRemoteModuleConfiguration : String := "invalid remote module template configuration"
def errTemplateNotAllowed : String := "module template not allowed"

inductive LookupError where
  | listFailed (cause : String)
  | invalidDescriptor (cause : String)
  | templateNotIdentified (moduleName : String) (candidates : List String)
  | noTemplatesInListResult (desiredChannel moduleIdentifier : String)
  | notDefaultChannelAllowed (name : String)
  | invalidRemoteModuleConfiguration (name : String)
  | templateNotAllowed (audience : String)
  deriving DecidableEq, Repr

def LookupError.error : LookupError → String
  | .listFailed cause => cause
  | .invalidDescriptor cause => "invalid ModuleTemplate descriptor: " ++ cause
  | .templateNotIdentified moduleName candidates => errTemplateNotIdentified ++
      ": more than one module template found for module: " ++ moduleName ++
      ", candidates: " ++ goStrings candidates
  | .noTemplatesInListResult desiredChannel moduleIdentifier => "no templates found in channel " ++
      desiredChannel ++ " for module " ++ moduleIdentifier ++ ": " ++ errNoTemplatesInListResult
  | .notDefaultChannelAllowed name =>
      "no channel found on template for module: " ++ name ++ ": " ++ errNotDefaultChannelAllowed
  | .invalidRemoteModuleConfiguration name => "enable sync to use a remote module template for " ++
      name ++ ": " ++ errInvalidRemoteModuleConfiguration
  | .templateNotAllowed audience => "module only for " ++ audience ++ " " ++ errTemplateNotAllowed

def LookupError.withoutCandidates : LookupError → LookupError
  | .templateNotIdentified moduleName _ => .templateNotIdentified moduleName []
  | err => err

def SameOutcome (r r' : Except LookupError ModuleTemplate) : Prop :=
  r.mapError LookupError.withoutCandidates = r'.mapError LookupError.withoutCandidates

structure ModuleTemplateTO where
  moduleTemplate : Option ModuleTemplate
  outdated : Bool
  err : Option LookupError
  desiredChannel : String
  deriving DecidableEq, Repr

abbrev ModuleTemplatesByModuleName := AList fun _ : String => ModuleTemplateTO

structure TemplateLookup where
  reader : Except String (List ModuleTemplate)
  module : Module
  defaultChannel : String

def TemplateLookup.getDesiredChannel (DefaultChannel : String) (c : TemplateLookup) : String :=
  if c.module.channel ≠ "" then c.module.channel
  else if c.defaultChannel ≠ "" then c.defaultChannel
  else DefaultChannel

def identifies (moduleIdentifier desiredChannel : String) (template : ModuleTemplate) :
    Except LookupError Bool :=
  if template.moduleNameLabel == moduleIdentifier && template.channel == desiredChannel then .ok true
  else if template.name == moduleIdentifier && template.channel == desiredChannel then .ok true
  else match template.descriptor with
    | .error err => .error (.invalidDescriptor err)
    | .ok descriptor => .ok (descriptor.name == moduleIdentifier && template.channel == desiredChannel)

def selectTemplate (moduleIdentifier desiredChannel : String) (items : List ModuleTemplate) :
    List ModuleTemplate → Except LookupError ModuleTemplate
  | [] => .error (.noTemplatesInListResult desiredChannel moduleIdentifier)
  | [template] => .ok template
  | _ :: _ :: _ => .error (.templateNotIdentified moduleIdentifier (items.map (·.name)))

def TemplateLookup.getTemplate (c : TemplateLookup) (desiredChannel : String) :
    Except LookupError ModuleTemplate :=
  match c.reader with
  | .error err => .error (.listFailed err)
  | .ok items =>
    match filterTemplates (identifies c.module.name desiredChannel) items with
    | .error err => .error err
    | .ok filteredTemplates => selectTemplate c.module.name desiredChannel items filteredTemplates

def TemplateLookup.withContext (DefaultChannel : String) (c : TemplateLookup) : ModuleTemplateTO :=
  let desiredChannel := c.getDesiredChannel DefaultChannel
  match c.getTemplate desiredChannel with
  | .error err => ⟨none, false, some err, desiredChannel⟩
  | .ok template =>
    if template.channel = "" then
      ⟨none, false, some (.notDefaultChannelAllowed c.module.name), desiredChannel⟩
    else ⟨some template, false, none, desiredChannel⟩

@[simp]
theorem withContext_outdated (DefaultChannel : String) (c : TemplateLookup) :
    (c.withContext DefaultChannel).outdated = false := by
  unfold TemplateLookup.withContext
  dsimp only
  split
  · rfl
  · split <;> rfl

section Resolution

variable (moduleIdentifier desiredChannel : String)

theorem identifies_foreign {template : ModuleTemplate} (hc : template.channel ≠ desiredChannel) :
    identifies moduleIdentifier desiredChannel template =
      match template.descriptor with
      | .error err => .error (.invalidDescriptor err)
      | .ok _ => .ok false := by
  have hc' : (template.channel == desiredChannel) = false := by simpa using hc
  unfold identifies
  cases template.descriptor <;> simp [hc']

theorem identifies_error {template : ModuleTemplate} {err : LookupError}
    (h : identifies moduleIdentifier desiredChannel template = .error err) :
    ∃ cause, err = .invalidDescriptor cause := by
  unfold identifies at h
  split_ifs at h
  cases hd : template.descriptor with
  | error cause => rw [hd] at h; exact ⟨cause, (Except.error.inj h).symm⟩
  | ok descriptor => rw [hd] at h; cases h

theorem selectTemplate_sameOutcome {items items' : List ModuleTemplate}
    (filtered : List ModuleTemplate) :
    SameOutcome (selectTemplate moduleIdentifier desiredChannel items' filtered)
      (selectTemplate moduleIdentifier desiredChannel items filtered) := by
  match filtered with
  | [] => rfl
  | [_] => rfl
  | _ :: _ :: _ => rfl

theorem getTemplate_insert_foreign {X : ModuleTemplate} (hX : X.channel ≠ desiredChannel)
    (module : Module) (defaultChannel : String) (pre post : List ModuleTemplate) :
    ((∃ descriptor, X.descriptor = .ok descriptor) →
      SameOutcome (TemplateLookup.getTemplate ⟨.ok (pre ++ X :: post), module, defaultChannel⟩
          desiredChannel)
        (TemplateLookup.getTemplate ⟨.ok (pre ++ post), module, defaultChannel⟩ desiredChannel)) ∧
    ((∃ cause, X.descriptor = .error cause) →
      ∃ cause, TemplateLookup.getTemplate ⟨.ok (pre ++ X :: post), module, defaultChannel⟩
        desiredChannel = .error (.invalidDescriptor cause)) := by
  have hid := identifies_foreign module.name desiredChannel hX
  refine ⟨fun ⟨descriptor, hd⟩ => ?_, fun ⟨cause, hd⟩ => ?_⟩
  · rw [hd] at hid
    simp only [TemplateLookup.getTemplate, filterTemplates_insert_unmatched _ hid]
    cases filterTemplates (identifies module.name desiredChannel) (pre ++ post) with
    | error err => rfl
    | ok filtered => exact selectTemplate_sameOutcome module.name desiredChannel filtered
  · rw [hd] at hid
    obtain ⟨err, h⟩ := filterTemplates_error_of_mem _ hid
      (List.mem_append_right pre (List.mem_cons_self X post))
    obtain ⟨template, -, hid'⟩ := filterTemplates_error _ h
    obtain ⟨cause', rfl⟩ := identifies_error module.name desiredChannel hid'
    exact ⟨cause', by simp only [TemplateLookup.getTemplate, h]⟩

end Resolution

section Desired

theorem TemplateLookup.getDesiredChannel_eq (DefaultChannel : String) (c : TemplateLookup) :
    c.getDesiredChannel DefaultChannel =
      Templatelookup.getDesiredChannel DefaultChannel c.module.channel c.defaultChannel := rfl

theorem identifies_channel {moduleIdentifier desiredChannel : String} {template : ModuleTemplate}
    (h : identifies moduleIdentifier desiredChannel template = .ok true) :
    template.channel = desiredChannel := by
  unfold identifies at h
  split_ifs at h <;> try split at h
  all_goals simp_all

theorem TemplateLookup.getTemplate_ok_channel {c : TemplateLookup} {desiredChannel : String}
    {template : ModuleTemplate} (h : c.getTemplate desiredChannel = .ok template) :
    template.channel = desiredChannel := by
  unfold TemplateLookup.getTemplate at h
  split at h
  · cases h
  · split at h
    · cases h
    · rename_i filtered hfilter
      match filtered, h with
      | [_], h =>
        cases h
        exact identifies_channel (filterTemplates_ok_mem _ hfilter (List.mem_singleton_self _)).2

theorem TemplateLookup.getTemplate_error_cases {c : TemplateLookup} {desiredChannel : String}
    {err : LookupError} (h : c.getTemplate desiredChannel = .error err) :
    (∃ cause, err = .listFailed cause) ∨ (∃ cause, err = .invalidDescriptor cause) ∨
      err = .noTemplatesInListResult desiredChannel c.module.name ∨
      ∃ items, c.reader = .ok items ∧ err = .templateNotIdentified c.module.name (items.map (·.name)) := by
  unfold TemplateLookup.getTemplate at h
  split at h
  · exact .inl ⟨_, (Except.error.inj h).symm⟩
  · rename_i items hreader
    split at h
    · rename_i hfilter
      obtain ⟨template, -, hid⟩ := filterTemplates_error _ hfilter
      obtain ⟨cause, hcause⟩ := identifies_error _ _ hid
      exact .inr (.inl ⟨cause, (Except.error.inj h).symm.trans hcause⟩)
    · unfold selectTemplate at h
      split at h
      · exact .inr (.inr (.inl (Except.error.inj h).symm))
      · cases h
      · exact .inr (.inr (.inr ⟨items, hreader, (Except.error.inj h).symm⟩))

theorem TemplateLookup.getTemplate_ne_notDefaultChannelAllowed (c : TemplateLookup)
    (desiredChannel n : String) : c.getTemplate desiredChannel ≠ .error (.notDefaultChannelAllowed n) :=
  fun h => by
    rcases TemplateLookup.getTemplate_error_cases h with ⟨_, h⟩ | ⟨_, h⟩ | h | ⟨_, _, h⟩ <;> cases h

theorem TemplateLookup.withContext_eq {DefaultChannel : String} (hdefault : DefaultChannel ≠ "")
    (c : TemplateLookup) :
    c.withContext DefaultChannel =
      match c.getTemplate (c.getDesiredChannel DefaultChannel) with
      | .error err => ⟨none, false, some err, c.getDesiredChannel DefaultChannel⟩
      | .ok template => ⟨some template, false, none, c.getDesiredChannel DefaultChannel⟩ := by
  have hne : c.getDesiredChannel DefaultChannel ≠ "" :=
    Templatelookup.getDesiredChannel_ne_empty hdefault c.module.channel c.defaultChannel
  unfold TemplateLookup.withContext
  cases hget : c.getTemplate (c.getDesiredChannel DefaultChannel) with
  | error err => simp only [hget]
  | ok template => simp only [hget, TemplateLookup.getTemplate_ok_channel hget, hne, if_false]

theorem TemplateLookup.withContext_in_desired_channel {DefaultChannel : String}
    (hdefault : DefaultChannel ≠ "") (c : TemplateLookup) :
    (c.withContext DefaultChannel).desiredChannel =
        ([c.module.channel, c.defaultChannel, DefaultChannel].find? (· != "")).getD "" ∧
      (c.withContext DefaultChannel).desiredChannel ≠ "" ∧
      (∀ n, (c.withContext DefaultChannel).err ≠ some (.notDefaultChannelAllowed n)) ∧
      ∀ T, (c.withContext DefaultChannel).moduleTemplate = some T →
        T.channel = (c.withContext DefaultChannel).desiredChannel := by
  have hfind := Templatelookup.getDesiredChannel_eq_find DefaultChannel c.module.channel c.defaultChannel
  have hne := Templatelookup.getDesiredChannel_ne_empty hdefault c.module.channel c.defaultChannel
  rw [TemplateLookup.withContext_eq hdefault, TemplateLookup.getDesiredChannel_eq]
  cases hget : c.getTemplate (Templatelookup.getDesiredChannel DefaultChannel c.module.channel
    c.defaultChannel) with
  | error err =>
    refine ⟨hfind, hne, fun n h => ?_, fun T h => by cases h⟩
    rw [Option.some.inj h] at hget
    exact c.getTemplate_ne_notDefaultChannelAllowed _ n hget
  | ok T =>
    dsimp only
    refine ⟨hfind, hne, fun _ => by simp, fun T' h => ?_⟩
    obtain rfl := Option.some.inj h
    exact TemplateLookup.getTemplate_ok_channel hget

theorem TemplateLookup.getTemplate_templateNotIdentified {items : List ModuleTemplate} {module : Module}
    {defaultChannel desiredChannel moduleName : String} {candidates : List String}
    (h : TemplateLookup.getTemplate ⟨.ok items, module, defaultChannel⟩ desiredChannel =
      .error (.templateNotIdentified moduleName candidates)) :
    moduleName = module.name ∧ candidates = items.map (·.name) := by
  rcases TemplateLookup.getTemplate_error_cases h with
    ⟨_, h⟩ | ⟨_, h⟩ | h | ⟨_, hreader, h⟩ <;> cases h
  cases hreader
  exact ⟨rfl, rfl⟩

end Desired

theorem getTemplate_ignores_foreign_channel {X : ModuleTemplate} {desiredChannel : String}
    (hX : X.channel ≠ desiredChannel) (dp : CachedDescriptorProvider) (module : Module)
    (defaultChannel : String) (pre post : List ModuleTemplate) :
    ((∃ descriptor, dp.getDescriptor X = .ok descriptor) →
      Templatelookup.SameOutcome
        (Templatelookup.TemplateLookup.getTemplate ⟨.ok (pre ++ X :: post), dp⟩ module.name
          desiredChannel)
        (Templatelookup.TemplateLookup.getTemplate ⟨.ok (pre ++ post), dp⟩ module.name
          desiredChannel)) ∧
    ((∃ cause, dp.getDescriptor X = .error cause) →
      ∃ cause, Templatelookup.TemplateLookup.getTemplate ⟨.ok (pre ++ X :: post), dp⟩ module.name
        desiredChannel = .error (.invalidDescriptor cause)) ∧
    ((∃ descriptor, X.descriptor = .ok descriptor) →
      SameOutcome (TemplateLookup.getTemplate ⟨.ok (pre ++ X :: post), module, defaultChannel⟩
          desiredChannel)
        (TemplateLookup.getTemplate ⟨.ok (pre ++ post), module, defaultChannel⟩ desiredChannel)) ∧
    ((∃ cause, X.descriptor = .error cause) →
      ∃ cause, TemplateLookup.getTemplate ⟨.ok (pre ++ X :: post), module, defaultChannel⟩
        desiredChannel = .error (.invalidDescriptor cause)) :=
  let regular := Templatelookup.getTemplate_insert_foreign dp module.name desiredChannel hX pre post
  let channel := getTemplate_insert_foreign desiredChannel hX module defaultChannel pre post
  ⟨regular.1, regular.2, channel.1, channel.2⟩

def kedaTemplate : ModuleTemplate :=
  { name := "keda-fast", ns := "kcp-system", generation := 1, moduleNameLabel := "keda",
    internal := false, beta := false, channel := "fast", mandatory := false,
    descriptor := .error "unable to decode component descriptor" }

def operatorModule : Module := ⟨"template-operator", "", ""⟩

theorem getTemplate_fails_on_foreign_descriptor :
    kedaTemplate.channel ≠ "regular" ∧
      Templatelookup.TemplateLookup.getTemplate ⟨.ok [], .decoding⟩ "template-operator" "regular" =
        .error (.noTemplatesInListResult "regular" "template-operator") ∧
      Templatelookup.TemplateLookup.getTemplate ⟨.ok [kedaTemplate], .decoding⟩ "template-operator"
        "regular" = .error (.invalidDescriptor "unable to decode component descriptor") ∧
      TemplateLookup.getTemplate ⟨.ok [], operatorModule, "regular"⟩ "regular" =
        .error (.noTemplatesInListResult "regular" "template-operator") ∧
      TemplateLookup.getTemplate ⟨.ok [kedaTemplate], operatorModule, "regular"⟩ "regular" =
        .error (.invalidDescriptor "unable to decode component descriptor") := by
  decide

def decodedKedaTemplate : ModuleTemplate :=
  { kedaTemplate with descriptor := .ok ⟨"kyma-project.io/module/keda", "2.0.0", "v2"⟩ }

theorem getTemplate_ignores_foreign_channel_keda :
    decodedKedaTemplate.channel ≠ "regular" ∧
      SameOutcome (TemplateLookup.getTemplate ⟨.ok [decodedKedaTemplate, Templatelookup.regularTemplate],
          operatorModule, "regular"⟩ "regular")
        (TemplateLookup.getTemplate ⟨.ok [Templatelookup.regularTemplate], operatorModule, "regular"⟩
          "regular") :=
  ⟨by decide, (getTemplate_ignores_foreign_channel (by decide) .decoding operatorModule "regular" []
    [Templatelookup.regularTemplate]).2.2.1 ⟨_, rfl⟩⟩

theorem getAndValidate_resolves_in_desired_channel {DefaultChannel : String}
    (hdefault : DefaultChannel ≠ "") (t : Templatelookup.TemplateLookup) (name channel defaultChannel : String)
    (c : TemplateLookup) :
    ((t.getAndValidate DefaultChannel name channel defaultChannel).desiredChannel =
        ([channel, defaultChannel, DefaultChannel].find? (· != "")).getD "" ∧
      (t.getAndValidate DefaultChannel name channel defaultChannel).desiredChannel ≠ "" ∧
      (∀ n, (t.getAndValidate DefaultChannel name channel defaultChannel).err ≠
        some (.notDefaultChannelAllowed n)) ∧
      ∀ T, (t.getAndValidate DefaultChannel name channel defaultChannel).moduleTemplate = some T →
        T.channel = (t.getAndValidate DefaultChannel name channel defaultChannel).desiredChannel) ∧
    ((c.withContext DefaultChannel).desiredChannel =
        ([c.module.channel, c.defaultChannel, DefaultChannel].find? (· != "")).getD "" ∧
      (c.withContext DefaultChannel).desiredChannel ≠ "" ∧
      (∀ n, (c.withContext DefaultChannel).err ≠ some (.notDefaultChannelAllowed n)) ∧
      ∀ T, (c.withContext DefaultChannel).moduleTemplate = some T →
        T.channel = (c.withContext DefaultChannel).desiredChannel) :=
  ⟨Templatelookup.getAndValidate_in_desired_channel hdefault t name channel defaultChannel,
    TemplateLookup.withContext_in_desired_channel hdefault c⟩

def operatorCatalog : List ModuleTemplate := [Templatelookup.fastTemplate, Templatelookup.regularTemplate]

theorem getAndValidate_resolves_in_desired_channel_regular :
    ("regular" : String) ≠ "" ∧
      (Templatelookup.TemplateLookup.getAndValidate "regular" ⟨.ok operatorCatalog, .decoding⟩
        "template-operator" "" "").moduleTemplate = some Templatelookup.regularTemplate ∧
      Templatelookup.regularTemplate.channel =
        (Templatelookup.TemplateLookup.getAndValidate "regular" ⟨.ok operatorCatalog, .decoding⟩
          "template-operator" "" "").desiredChannel ∧
      (TemplateLookup.withContext "regular" ⟨.ok operatorCatalog, operatorModule, ""⟩).moduleTemplate =
        some Templatelookup.regularTemplate ∧
      Templatelookup.regularTemplate.channel =
        (TemplateLookup.withContext "regular" ⟨.ok operatorCatalog, operatorModule, ""⟩).desiredChannel :=
  have h := getAndValidate_resolves_in_desired_channel (by decide) ⟨.ok operatorCatalog, .decoding⟩
    "template-operator" "" "" ⟨.ok operatorCatalog, operatorModule, ""⟩
  ⟨by decide, by decide, h.1.2.2.2 _ (by decide), by decide, h.2.2.2.2 _ (by decide)⟩

def regularCopyTemplate : ModuleTemplate :=
  { Templatelookup.regularTemplate with name := "template-operator-regular-copy" }

def ambiguousCatalog : List ModuleTemplate :=
  [Templatelookup.fastTemplate, Templatelookup.regularTemplate, regularCopyTemplate]

theorem getTemplate_candidates_name_unmatched_templates :
    Templatelookup.matchingTemplates .decoding "template-operator" "regular" ambiguousCatalog =
        [Templatelookup.regularTemplate, regularCopyTemplate] ∧
      Templatelookup.fastTemplate.channel ≠ "regular" ∧
      Templatelookup.TemplateLookup.getTemplate ⟨.ok ambiguousCatalog, .decoding⟩ "template-operator"
        "regular" = .error (.templateNotIdentified "template-operator"
          ["template-operator-fast", "template-operator-regular", "template-operator-regular-copy"]) ∧
      TemplateLookup.getTemplate ⟨.ok ambiguousCatalog, operatorModule, "regular"⟩ "regular" =
        .error (.templateNotIdentified "template-operator"
          ["template-operator-fast", "template-operator-regular", "template-operator-regular-copy"]) := by
  decide

end KymaOperator.Channel
