import Mathlib.Data.List.AList

namespace KymaOperator.Manifests

structure Manifest where
  name : String
  ns : String
  labels : AList fun _ : String => String
  remote : Bool

structure LabelNotFoundError where
  resource : Manifest
  labelName : String

def getResourceLabel (resource : Manifest) (labelName : String) : Except LabelNotFoundError String :=
  match resource.labels.lookup labelName with
  | some labelValue => .ok labelValue
  | none => .error ⟨resource, ""⟩

def formatBool (b : Bool) : String := if b then "true" else "false"

def generateCacheKey (values : List String) : String :=
  values.foldl (· ++ ·) ""

def withClientCacheKey (KymaName : String) (resource : Option Manifest) : Option String × Bool :=
  match resource with
  | none => (none, false)
  | some manifest =>
    match getResourceLabel manifest KymaName with
    | .error _ => (none, false)
    | .ok labelValue => (some (generateCacheKey [labelValue, formatBool manifest.remote, manifest.ns]), true)

theorem generateCacheKey_three (a b c : String) : generateCacheKey [a, b, c] = a ++ b ++ c := by
  simp [generateCacheKey, String.ext_iff]

theorem withClientCacheKey_of_label {KymaName labelValue : String} {manifest : Manifest}
    (h : getResourceLabel manifest KymaName = .ok labelValue) :
    withClientCacheKey KymaName (some manifest) =
      (some (labelValue ++ formatBool manifest.remote ++ manifest.ns), true) := by
  simp only [withClientCacheKey, h, generateCacheKey_three]

theorem withClientCacheKey_of_no_label {KymaName : String} {manifest : Manifest}
    (h : manifest.labels.lookup KymaName = none) :
    withClientCacheKey KymaName (some manifest) = (none, false) := by
  simp [withClientCacheKey, getResourceLabel, h]

theorem append_formatBool_inj {a a' : String} {b b' : Bool}
    (h : a ++ formatBool b = a' ++ formatBool b') : a = a' ∧ b = b' := by
  have hdata := congrArg String.data h
  have hlast := congrArg (fun l : List Char => l.reverse.take 2) hdata
  cases b <;> cases b' <;> simp [formatBool] at hdata hlast
  all_goals exact ⟨String.ext hdata, rfl⟩

theorem withClientCacheKey_injective_same_namespace {KymaName labelValue labelValue' : String}
    {manifest manifest' : Manifest} (hlabel : getResourceLabel manifest KymaName = .ok labelValue)
    (hlabel' : getResourceLabel manifest' KymaName = .ok labelValue') (hns : manifest.ns = manifest'.ns)
    (hkey : withClientCacheKey KymaName (some manifest) = withClientCacheKey KymaName (some manifest')) :
    labelValue = labelValue' ∧ manifest.remote = manifest'.remote := by
  rw [withClientCacheKey_of_label hlabel, withClientCacheKey_of_label hlabel', hns] at hkey
  have hprefix : (labelValue ++ formatBool manifest.remote).data =
      (labelValue' ++ formatBool manifest'.remote).data :=
    List.append_cancel_right (by simpa [String.ext_iff] using hkey)
  exact append_formatBool_inj (String.ext hprefix)

def kymaManifest (KymaName labelValue : String) (remote : Bool) (ns : String) : Manifest :=
  ⟨"template-operator", ns, (∅ : AList fun _ : String => String).insert KymaName labelValue, remote⟩

theorem withClientCacheKey_injective_same_namespace_remote :
    getResourceLabel (kymaManifest "kyma-name" "kyma-sample" true "kcp-system") "kyma-name" = .ok "kyma-sample" ∧
      withClientCacheKey "kyma-name" (some (kymaManifest "kyma-name" "kyma-sample" true "kcp-system")) =
        (some "kyma-sampletruekcp-system", true) ∧
      ("kyma-sample" = "kyma-sample" ∧
        (kymaManifest "kyma-name" "kyma-sample" true "kcp-system").remote =
          (kymaManifest "kyma-name" "kyma-sample" true "kcp-system").remote) :=
  have hlabel : getResourceLabel (kymaManifest "kyma-name" "kyma-sample" true "kcp-system") "kyma-name" =
      .ok "kyma-sample" := by
    simp only [getResourceLabel, kymaManifest, AList.lookup_insert]
  ⟨hlabel, by rw [withClientCacheKey_of_label hlabel]; decide,
    withClientCacheKey_injective_same_namespace hlabel hlabel rfl rfl⟩

theorem withClientCacheKey_collides_across_namespaces (KymaName : String) :
    getResourceLabel (kymaManifest KymaName "kymatrue" false "kcp-system") KymaName = .ok "kymatrue" ∧
      getResourceLabel (kymaManifest KymaName "kyma" true "falsekcp-system") KymaName = .ok "kyma" ∧
      withClientCacheKey KymaName (some (kymaManifest KymaName "kymatrue" false "kcp-system")) =
        (some "kymatruefalsekcp-system", true) ∧
      withClientCacheKey KymaName (some (kymaManifest KymaName "kyma" true "falsekcp-system")) =
        (some "kymatruefalsekcp-system", true) := by
  have hlabel (labelValue : String) (remote : Bool) (ns : String) :
      getResourceLabel (kymaManifest KymaName labelValue remote ns) KymaName = .ok labelValue := by
    simp only [getResourceLabel, kymaManifest, AList.lookup_insert]
  refine ⟨hlabel _ _ _, hlabel _ _ _, ?_, ?_⟩ <;>
    rw [withClientCacheKey_of_label (hlabel _ _ _)] <;> simp only [kymaManifest] <;> decide

end KymaOperator.Manifests
