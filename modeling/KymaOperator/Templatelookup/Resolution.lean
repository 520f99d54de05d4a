import KymaOperator.Templatelookup.Regular

namespace KymaOperator.Templatelookup

def LookupError.withoutCandidates : LookupError → LookupError
  | .templateNotIdentified moduleName _ => .templateNotIdentified moduleName []
  | err => err

def SameOutcome (r r' : Except LookupError ModuleTemplate) : Prop :=
  r.mapError LookupError.withoutCandidates = r'.mapError LookupError.withoutCandidates

def templateNameIndex (template : ModuleTemplate) : List String :=
  [template.name, template.ns ++ "/" ++ template.name]

section Resolution

variable (dp : CachedDescriptorProvider) (name desiredChannel : String)

def identityMatch (template : ModuleTemplate) : Bool :=
  template.moduleNameLabel == name || template.ns ++ "/" ++ template.name == name ||
    template.name == name ||
      match dp.getDescriptor template with
      | .ok descriptor => descriptor.name == name
      | .error _ => false

def matchingTemplates (items : List ModuleTemplate) : List ModuleTemplate :=
  items.filter fun template => template.channel == desiredChannel && identityMatch dp name template

theorem identifies_of_getDescriptor {template : ModuleTemplate} {descriptor : Descriptor}
    (h : dp.getDescriptor template = .ok descriptor) :
    identifies dp name desiredChannel template =
      .ok (template.channel == desiredChannel && identityMatch dp name template) := by
  unfold identifies identityMatch
  rw [h]
  cases template.channel == desiredChannel <;>
    cases template.moduleNameLabel == name <;> cases template.ns ++ "/" ++ template.name == name <;>
      cases template.name == name <;> simp

theorem identifies_error {template : ModuleTemplate} {err : LookupError}
    (h : identifies dp name desiredChannel template = .error err) :
    ∃ cause, err = .invalidDescriptor cause ∧ dp.getDescriptor template = .error cause := by
  unfold identifies at h
  split_ifs at h
  cases hd : dp.getDescriptor template <;> simp_all

theorem filterTemplates_invalidDescriptor {items : List ModuleTemplate} {err : LookupError}
    (h : filterTemplates (identifies dp name desiredChannel) items = .error err) :
    ∃ cause, err = .invalidDescriptor cause := by
  obtain ⟨template, -, hid⟩ := filterTemplates_error _ h
  obtain ⟨cause, rfl, -⟩ := identifies_error dp name desiredChannel hid
  exact ⟨cause, rfl⟩

theorem filterTemplates_eq_matching {items : List ModuleTemplate}
    (h : ∀ template ∈ items, ∃ descriptor, dp.getDescriptor template = .ok descriptor) :
    filterTemplates (identifies dp name desiredChannel) items =
      .ok (matchingTemplates dp name desiredChannel items) :=
  filterTemplates_eq_filter _ fun template ht =>
    let ⟨_, hd⟩ := h template ht
    identifies_of_getDescriptor dp name desiredChannel hd

theorem getTemplate_ok_reader (items : List ModuleTemplate) :
    TemplateLookup.getTemplate ⟨.ok items, dp⟩ name desiredChannel =
      match filterTemplates (identifies dp name desiredChannel) items with
      | .error err => .error err
      | .ok filteredTemplates => selectTemplate name desiredChannel items filteredTemplates := rfl

theorem selectTemplate_sameOutcome {items items' filtered filtered' : List ModuleTemplate}
    (hp : filtered'.Perm filtered) :
    SameOutcome (selectTemplate name desiredChannel items' filtered')
      (selectTemplate name desiredChannel items filtered) := by
  match filtered, filtered', hp with
  | [], _, hp => rw [List.perm_nil.mp hp]; rfl
  | [template], _, hp => rw [List.perm_singleton.mp hp]; rfl
  | _ :: _ :: _, _ :: _ :: _, _ => rfl
  | _ :: _ :: _, [], hp => exact absurd hp.length_eq (by simp)
  | _ :: _ :: _, [_], hp => exact absurd hp.length_eq (by simp)

theorem getTemplate_resolution {items : List ModuleTemplate}
    (hdecode : ∀ template ∈ items, ∃ descriptor, dp.getDescriptor template = .ok descriptor) :
    (2 ≤ (matchingTemplates dp name desiredChannel items).length →
      ∃ candidates, TemplateLookup.getTemplate ⟨.ok items, dp⟩ name desiredChannel =
        .error (.templateNotIdentified name candidates)) ∧
    (matchingTemplates dp name desiredChannel items = [] →
      TemplateLookup.getTemplate ⟨.ok items, dp⟩ name desiredChannel =
        .error (.noTemplatesInListResult desiredChannel name)) ∧
    (∀ template, matchingTemplates dp name desiredChannel items = [template] →
      template.mandatory = true → TemplateLookup.getTemplate ⟨.ok items, dp⟩ name desiredChannel =
        .error (.templateMarkedAsMandatory desiredChannel name)) ∧
    (∀ template, matchingTemplates dp name desiredChannel items = [template] →
      template.mandatory = false →
        TemplateLookup.getTemplate ⟨.ok items, dp⟩ name desiredChannel = .ok template) ∧
    ∀ items', items'.Perm items →
      SameOutcome (TemplateLookup.getTemplate ⟨.ok items', dp⟩ name desiredChannel)
        (TemplateLookup.getTemplate ⟨.ok items, dp⟩ name desiredChannel) := by
  have hget := getTemplate_ok_reader dp name desiredChannel items
  rw [filterTemplates_eq_matching dp name desiredChannel hdecode] at hget
  refine ⟨fun hlen => ?_, fun hM => by simp [hget, hM, selectTemplate],
    fun template hM hm => by simp [hget, hM, hm, selectTemplate],
    fun template hM hm => by simp [hget, hM, hm, selectTemplate], fun items' hp => ?_⟩
  · match hM : matchingTemplates dp name desiredChannel items, hlen with
    | _ :: _ :: _, _ => exact ⟨_, by rw [hget, hM]; rfl⟩
  · rw [getTemplate_ok_reader, filterTemplates_eq_matching dp name desiredChannel
      fun t ht => hdecode t (hp.subset ht), hget]
    exact selectTemplate_sameOutcome name desiredChannel (hp.filter _)

theorem getTemplate_error_cases {t : TemplateLookup} {err : LookupError}
    (h : t.getTemplate name desiredChannel = .error err) :
    (∃ cause, err = .listFailed cause) ∨ (∃ cause, err = .invalidDescriptor cause) ∨
      err = .noTemplatesInListResult desiredChannel name ∨
      err = .templateMarkedAsMandatory desiredChannel name ∨
      ∃ items, t.reader = .ok items ∧ err = .templateNotIdentified name (items.map (·.name)) := by
  unfold TemplateLookup.getTemplate at h
  split at h
  · exact .inl ⟨_, (Except.error.inj h).symm⟩
  · rename_i items hreader
    split at h
    · rename_i hfilter
      obtain ⟨cause, hcause⟩ := filterTemplates_invalidDescriptor _ name desiredChannel hfilter
      exact .inr (.inl ⟨cause, (Except.error.inj h).symm.trans hcause⟩)
    · unfold selectTemplate at h
      split at h
      · exact .inr (.inr (.inl (Except.error.inj h).symm))
      · split_ifs at h
        exact .inr (.inr (.inr (.inl (Except.error.inj h).symm)))
      · exact .inr (.inr (.inr (.inr ⟨items, hreader, (Except.error.inj h).symm⟩)))

theorem getTemplate_ne_notDefaultChannelAllowed (t : TemplateLookup) (n : String) :
    t.getTemplate name desiredChannel ≠ .error (.notDefaultChannelAllowed n) := fun h => by
  rcases getTemplate_error_cases name desiredChannel h with ⟨_, h⟩ | ⟨_, h⟩ | h | h | ⟨_, _, h⟩ <;>
    cases h

theorem getTemplate_templateNotIdentified {items : List ModuleTemplate} {moduleName : String}
    {candidates : List String}
    (h : TemplateLookup.getTemplate ⟨.ok items, dp⟩ name desiredChannel =
      .error (.templateNotIdentified moduleName candidates)) :
    moduleName = name ∧ candidates = items.map (·.name) := by
  rcases getTemplate_error_cases name desiredChannel h with
    ⟨_, h⟩ | ⟨_, h⟩ | h | h | ⟨_, hreader, h⟩ <;> cases h
  cases hreader
  exact ⟨rfl, rfl⟩

theorem getAndValidate_eq {DefaultChannel : String} (hdefault : DefaultChannel ≠ "")
    (t : TemplateLookup) (name channel defaultChannel : String) :
    t.getAndValidate DefaultChannel name channel defaultChannel =
      match t.getTemplate name (getDesiredChannel DefaultChannel channel defaultChannel) with
      | .error err => ⟨none, some err, getDesiredChannel DefaultChannel channel defaultChannel⟩
      | .ok template => ⟨some template, none, getDesiredChannel DefaultChannel channel defaultChannel⟩ := by
  unfold TemplateLookup.getAndValidate
  cases hget : t.getTemplate name (getDesiredChannel DefaultChannel channel defaultChannel) with
  | error err => simp only [hget]
  | ok template =>
    simp only [hget, TemplateLookup.getTemplate_ok_channel hget,
      getDesiredChannel_ne_empty hdefault, if_false]

theorem getAndValidate_in_desired_channel {DefaultChannel : String} (hdefault : DefaultChannel ≠ "")
    (t : TemplateLookup) (name channel defaultChannel : String) :
    (t.getAndValidate DefaultChannel name channel defaultChannel).desiredChannel =
        ([channel, defaultChannel, DefaultChannel].find? (· != "")).getD "" ∧
      (t.getAndValidate DefaultChannel name channel defaultChannel).desiredChannel ≠ "" ∧
      (∀ n, (t.getAndValidate DefaultChannel name channel defaultChannel).err ≠
        some (.notDefaultChannelAllowed n)) ∧
      ∀ T, (t.getAndValidate DefaultChannel name channel defaultChannel).moduleTemplate = some T →
        T.channel = (t.getAndValidate DefaultChannel name channel defaultChannel).desiredChannel := by
  have hfind := getDesiredChannel_eq_find DefaultChannel channel defaultChannel
  have hne := getDesiredChannel_ne_empty hdefault channel defaultChannel
  rw [getAndValidate_eq hdefault]
  cases hget : t.getTemplate name (getDesiredChannel DefaultChannel channel defaultChannel) with
  | error err =>
    refine ⟨hfind, hne, fun n h => ?_, fun T h => by cases h⟩
    rw [Option.some.inj h] at hget
    exact getTemplate_ne_notDefaultChannelAllowed name _ t n hget
  | ok T =>
    dsimp only
    refine ⟨hfind, hne, fun _ => by simp, fun T' h => ?_⟩
    obtain rfl := Option.some.inj h
    exact TemplateLookup.getTemplate_ok_channel hget

def fastTemplate : ModuleTemplate :=
  { name := "template-operator-fast", ns := "kcp-system", generation := 1,
    moduleNameLabel := "template-operator", internal := false, beta := false,
    channel := "fast", mandatory := false,
    descriptor := .ok ⟨"kyma-project.io/module/template-operator", "2.0.0", "v2"⟩ }

def regularTemplate : ModuleTemplate :=
  { fastTemplate with
    name := "template-operator-regular", channel := "regular",
    descriptor := .ok ⟨"kyma-project.io/module/template-operator", "1.0.0", "v2"⟩ }

theorem getTemplate_resolution_regular :
    (∀ template ∈ [fastTemplate, regularTemplate], ∃ descriptor,
      CachedDescriptorProvider.decoding.getDescriptor template = .ok descriptor) ∧
      matchingTemplates .decoding "template-operator" "regular" [fastTemplate, regularTemplate] =
        [regularTemplate] ∧
      TemplateLookup.getTemplate ⟨.ok [fastTemplate, regularTemplate], .decoding⟩ "template-operator"
        "regular" = .ok regularTemplate := by
  have hdecode : ∀ template ∈ [fastTemplate, regularTemplate], ∃ descriptor,
      CachedDescriptorProvider.decoding.getDescriptor template = .ok descriptor := by
    simp only [List.mem_cons, List.mem_singleton, List.not_mem_nil, or_false]
    rintro t (rfl | rfl) <;> exact ⟨_, rfl⟩
  exact ⟨hdecode, by decide, (getTemplate_resolution .decoding "template-operator" "regular"
    hdecode).2.2.2.1 regularTemplate (by decide) rfl⟩

theorem identifies_foreign {template : ModuleTemplate} (hc : template.channel ≠ desiredChannel) :
    identifies dp name desiredChannel template =
      match dp.getDescriptor template with
      | .error err => .error (.invalidDescriptor err)
      | .ok _ => .ok false := by
  have hc' : (template.channel == desiredChannel) = false := by simpa using hc
  unfold identifies
  cases dp.getDescriptor template <;> simp [hc']

theorem getTemplate_insert_foreign {X : ModuleTemplate} (hX : X.channel ≠ desiredChannel)
    (pre post : List ModuleTemplate) :
    ((∃ descriptor, dp.getDescriptor X = .ok descriptor) →
      SameOutcome (TemplateLookup.getTemplate ⟨.ok (pre ++ X :: post), dp⟩ name desiredChannel)
        (TemplateLookup.getTemplate ⟨.ok (pre ++ post), dp⟩ name desiredChannel)) ∧
    ((∃ cause, dp.getDescriptor X = .error cause) →
      ∃ cause, TemplateLookup.getTemplate ⟨.ok (pre ++ X :: post), dp⟩ name desiredChannel =
        .error (.invalidDescriptor cause)) := by
  have hid := identifies_foreign dp name desiredChannel hX
  refine ⟨fun ⟨descriptor, hd⟩ => ?_, fun ⟨cause, hd⟩ => ?_⟩
  · rw [hd] at hid
    rw [getTemplate_ok_reader, getTemplate_ok_reader, filterTemplates_insert_unmatched _ hid]
    cases filterTemplates (identifies dp name desiredChannel) (pre ++ post) with
    | error err => rfl
    | ok filtered => exact selectTemplate_sameOutcome name desiredChannel (List.Perm.refl _)
  · rw [hd] at hid
    obtain ⟨err, h⟩ := filterTemplates_error_of_mem _ hid
      (List.mem_append_right pre (List.mem_cons_self X post))
    obtain ⟨cause', rfl⟩ := filterTemplates_invalidDescriptor dp name desiredChannel h
    exact ⟨cause', by rw [getTemplate_ok_reader, h]⟩

end Resolution

end KymaOperator.Templatelookup
