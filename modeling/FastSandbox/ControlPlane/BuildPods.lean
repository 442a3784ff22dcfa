import Mathlib.Data.String.Basic

/-!
# The build Pods of a SandboxTemplate

A build Pod names its template in a label, which is how its events find their way back. A label
value is shorter than a name may be, so a long name is cut and gets a hash; `mapBuildPod` takes the
label for the name.
-/

namespace FastSandbox.ControlPlane.BuildPods

/-- What Kubernetes accepts as a name: a DNS-1123 subdomain. All its characters are ASCII. -/
def isDNS1123Subdomain (name : String) : Bool :=
  name.length ≤ 253 && (name.toList.splitOn '.').all fun label =>
    label.all (fun c => c.isLower || c.isDigit || c = '-') &&
      label.head? ∉ [none, some '-'] && label.getLast? ≠ some '-'

structure SandboxTemplate where
  (templateNamespace name : String)
  generation : ℤ
  namespace_ne : templateNamespace ≠ ""
  accepted : isDNS1123Subdomain name

/-- The key under which the template is reconciled: its namespace and its name. -/
def SandboxTemplate.key (t : SandboxTemplate) : String × String := (t.templateNamespace, t.name)

structure Pod where
  (name podNamespace : String)
  labels : List (String × String)

def Pod.label (pod : Pod) (key : String) : String := (pod.labels.lookup key).getD ""

def sandboxTemplateBuildLabel : String := "sandbox.fast.io/sandboxtemplate"

def sandboxTemplateNamespaceLabel : String := "sandbox.fast.io/template-namespace"

def sandboxTemplateGenerationLabel : String := "sandbox.fast.io/generation"

variable (sum : String → String)

/-- The first 40 bytes of a long name, with 64 bits of its SHA-256 `sum` in hex. -/
def templateLabelValue (name : String) : String :=
  if name.length ≤ 40 then name else String.ofList (name.toList.take 40) ++ "-" ++ sum name

def buildPodName (t : SandboxTemplate) : String :=
  let seed :=
    if 40 < t.name.length then String.ofList (t.name.toList.take 40) ++ "-" ++ sum t.name
    else t.name
  seed ++ "-build-" ++ toString t.generation

/-- The Pod that `createBuildPod` creates. -/
def createBuildPod (t : SandboxTemplate) : Pod where
  name := buildPodName sum t
  podNamespace := t.templateNamespace
  labels := [(sandboxTemplateBuildLabel, templateLabelValue sum t.name),
    (sandboxTemplateNamespaceLabel, t.templateNamespace),
    (sandboxTemplateGenerationLabel, toString t.generation)]

def mapBuildPod (pod : Pod) : List (String × String) :=
  let name := pod.label sandboxTemplateBuildLabel
  let podNamespace := pod.label sandboxTemplateNamespaceLabel
  if name = "" ∨ podNamespace = "" then [] else [(podNamespace, name)]

variable {sum}

theorem SandboxTemplate.name_ne (t : SandboxTemplate) : t.name ≠ "" := by
  intro h
  have := t.accepted
  rw [h] at this
  cases this

theorem mapBuildPod_createBuildPod (t : SandboxTemplate) :
    mapBuildPod (createBuildPod sum t) =
      [(t.templateNamespace, templateLabelValue sum t.name)] := by
  have hl : templateLabelValue sum t.name ≠ "" := by
    unfold templateLabelValue
    split_ifs
    · exact t.name_ne
    · simp
  exact if_neg (not_or.mpr ⟨hl, t.namespace_ne⟩)

/-- **A build Pod wakes its template, and no other,** exactly if the name has at most 40 characters
or is itself such a shortened name. -/
theorem buildPod_wakes_iff (sum : String → String) (t : SandboxTemplate) :
    mapBuildPod (createBuildPod sum t) = [t.key] ∧
      (∀ t' : SandboxTemplate, t'.templateNamespace = t.templateNamespace → t'.name ≠ t.name →
        t'.key ∉ mapBuildPod (createBuildPod sum t)) ↔
    t.name.length ≤ 40 ∨ t.name = String.ofList (t.name.toList.take 40) ++ "-" ++ sum t.name := by
  have hl : templateLabelValue sum t.name = t.name ↔ t.name.length ≤ 40 ∨
      t.name = String.ofList (t.name.toList.take 40) ++ "-" ++ sum t.name := by
    unfold templateLabelValue
    split_ifs with h
    · simp [h]
    · simp [h, eq_comm]
  rw [mapBuildPod_createBuildPod, ← hl]
  simp only [SandboxTemplate.key, List.cons.injEq, Prod.mk.injEq, true_and, and_true,
    List.mem_singleton]
  refine and_iff_left_of_imp fun heq t' _ hne h => hne (h.2.trans heq)

def longTemplate : SandboxTemplate where
  templateNamespace := "default"
  name := String.ofList (List.replicate 41 'a')
  generation := 1
  namespace_ne := by decide
  accepted := by decide

/-- Whatever the hash, the label has a dash where the name has its last letter. -/
theorem longTemplate_not_woken :
    ¬ ∃ sum, longTemplate.key ∈ mapBuildPod (createBuildPod sum longTemplate) := by
  rintro ⟨sum, h⟩
  rw [mapBuildPod_createBuildPod, List.mem_singleton, templateLabelValue, if_neg (by decide)] at h
  have hd := congrArg (fun key => key.2.toList[40]?) h
  simp [SandboxTemplate.key, longTemplate] at hd

end FastSandbox.ControlPlane.BuildPods
