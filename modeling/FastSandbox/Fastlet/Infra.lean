import Mathlib.Data.String.Basic

/-!
# The mounts of Infra Components

`ValidateInfraComponents` compares the target paths inside one component only. That the mounts of a
Sandbox do not meet rests on the names: each component has its own directory, and the platform's
own files lie elsewhere.
-/

namespace FastSandbox.Fastlet.Infra

open List

structure Mapping where
  (sourcePath targetPath : String)

/-- The source is the reference of an image, or the URL and the SHA-256 of an archive. -/
structure Artifact where
  image : Option String
  archive : Option (String × String)
  mappings : List Mapping

structure InfraComponent where
  (name delivery : String)
  artifact : Option Artifact
  (command envNames : List String)
  restartPolicy : String
  httpGet : Option String
  tcpConnect : Bool
  timeoutSeconds : ℤ
  protocol : String
  port : ℤ

/-- `path.Clean`, `strings.TrimSpace`, the scheme and host that `url.Parse` finds, and whether
`k8svalidation.IsDNS1123Label` finds no problem. A label consists of lower case letters, digits and
hyphens. -/
structure Library where
  (clean trimSpace : String → String)
  parse : String → Option (String × String)
  isDNS1123Label : String → Bool
  label : ∀ name, isDNS1123Label name → ∀ c ∈ name.toList, c.isLower ∨ c.isDigit ∨ c = '-'

def hasPrefix (s start : String) : Bool := start.toList.isPrefixOf s.toList

def pathsOverlap (left right : String) : Bool :=
  left = right || hasPrefix left (right ++ "/") || hasPrefix right (left ++ "/")

def sha256Pattern (s : String) : Bool :=
  s.length = 64 && s.toList.all fun c => c.isDigit || 'a' ≤ c && c ≤ 'f'

def hostProcess : String := "host-process"

def targetRoot (name : String) : String := "/.fast/components/" ++ name

variable (lib : Library)

def cleanAbsolutePath (value : String) : Bool :=
  hasPrefix value "/" && value ≠ "/" && lib.clean value = value

def validateComponentArtifact (artifact : Artifact) : Bool :=
  artifact.image.isSome != artifact.archive.isSome &&
  artifact.image.all (fun reference =>
    match reference.splitOn "@sha256:" with
    | [repository, digest] => repository ≠ "" && sha256Pattern digest
    | _ => false) &&
  artifact.archive.all (fun (url, sha256) => sha256Pattern sha256 &&
    (lib.parse url).any fun (scheme, host) => scheme = "https" && host ≠ "") &&
  artifact.mappings ≠ []

def validateMappings (root : String) : List String → List Mapping → Bool
  | _, [] => true
  | targets, m :: rest =>
    cleanAbsolutePath lib m.sourcePath && cleanAbsolutePath lib m.targetPath &&
    (m.targetPath = root || hasPrefix m.targetPath (root ++ "/")) &&
    targets.all (fun t => !pathsOverlap t m.targetPath) &&
    validateMappings root (targets ++ [m.targetPath]) rest

namespace InfraComponent

variable (c : InfraComponent)

def validateDelivery : Bool :=
  if c.delivery = hostProcess then c.artifact.isNone
  else c.delivery = "" && c.artifact.any fun a => validateComponentArtifact lib a &&
    validateMappings lib (targetRoot c.name) [] a.mappings

def validateProcess : Bool :=
  c.command.head?.any (lib.trimSpace · ≠ "") && c.envNames.all (!hasPrefix · "FAST_SANDBOX_") &&
  c.restartPolicy ∈ ["", "Never", "OnFailure", "Always"] &&
  c.httpGet.isSome != c.tcpConnect && c.httpGet.all (cleanAbsolutePath lib) &&
  0 ≤ c.timeoutSeconds && c.timeoutSeconds ≤ 300 && c.protocol = "HTTP" &&
  1 ≤ c.port && c.port ≤ 65535

def validate : Bool :=
  lib.isDNS1123Label c.name && !hasPrefix c.name "fast-sandbox-" && c.validateDelivery lib &&
    c.validateProcess lib

def targets : List String :=
  if c.delivery = hostProcess then [] else (c.artifact.elim [] (·.mappings)).map (·.targetPath)

end InfraComponent

def validateInfraComponents : List String → List ℤ → List InfraComponent → Bool
  | _, _, [] => true
  | names, ports, c :: rest =>
    c.validate lib && c.name ∉ names && c.port ∉ ports &&
    validateInfraComponents (c.name :: names) (c.port :: ports) rest

structure SandboxPoolSpec where
  infraComponents : List InfraComponent
  accepted : validateInfraComponents lib [] [] infraComponents = true

/-- The checks of the identity, of the prepared plan, of its revision and of `sandbox-init`, and
whether the instance file could be written. -/
structure Outcome where
  (identity plan revision supervisor written : Bool)

def sandboxInitContainerPath : String := "/.fast/bin/sandbox-init"

def instanceConfigPath : String := "/.fast/run/infra.json"

namespace SandboxPoolSpec

variable {lib} (pool : SandboxPoolSpec lib)

def hasGuestComponents : Bool := pool.infraComponents.any (·.delivery ≠ hostProcess)

def targets : List String := pool.infraComponents.flatMap (·.targets)

/-- The destinations of the mounts; there are none with an error. -/
def prepareInstance (f : Outcome) : List String :=
  if f.identity && f.plan && f.revision && f.written &&
      (!pool.hasGuestComponents || f.supervisor) then
    if pool.hasGuestComponents then
      sandboxInitContainerPath :: (pool.targets ++ [instanceConfigPath])
    else pool.targets
  else []

end SandboxPoolSpec

/-! ## Elements of a path -/

/-- What stands between position `k` and the next slash. -/
def element (k : ℕ) (path : String) : List Char := (path.toList.drop k).takeWhile (· ≠ '/')

def Apart (left right : String) : Prop := pathsOverlap left right = false

variable {lib} {k : ℕ} {a b name t : String}

theorem takeWhile_append_slash (l rest : List Char) :
    (l ++ '/' :: rest).takeWhile (· ≠ '/') = l.takeWhile (· ≠ '/') := by
  induction l with
  | nil => rfl
  | cons c l ih => simp only [cons_append, takeWhile_cons, ih]

theorem toList_of_hasPrefix (h : hasPrefix b (a ++ "/")) :
    ∃ rest, b.toList = a.toList ++ '/' :: rest := by
  obtain ⟨rest, hr⟩ := isPrefixOf_iff_prefix.mp h
  exact ⟨rest, by simpa using hr.symm⟩

theorem element_of_hasPrefix (hk : k ≤ a.toList.length) (h : hasPrefix b (a ++ "/")) :
    element k b = element k a := by
  obtain ⟨rest, hb⟩ := toList_of_hasPrefix h
  unfold element
  rw [hb, drop_append_of_le_length hk, takeWhile_append_slash]

theorem apart_of_element (ha : k ≤ a.toList.length) (hb : k ≤ b.toList.length)
    (h : element k a ≠ element k b) : Apart a b := by
  by_contra hc
  simp only [Apart, pathsOverlap, Bool.not_eq_false, Bool.or_eq_true, decide_eq_true_eq] at hc
  rcases hc with (rfl | hc) | hc
  · exact h rfl
  · exact h (element_of_hasPrefix hb hc)
  · exact h (element_of_hasPrefix ha hc).symm

theorem elements_of_target (hn : '/' ∉ name.toList)
    (h : t = targetRoot name ∨ hasPrefix t (targetRoot name ++ "/")) : 18 ≤ t.toList.length ∧
      element 18 t = name.toList ∧ element 7 t = "components".toList := by
  obtain ⟨rest, ht, hr⟩ : ∃ rest, t.toList = (targetRoot name).toList ++ rest ∧
      rest.takeWhile (· ≠ '/') = [] := by
    rcases h with rfl | h
    · exact ⟨[], (append_nil _).symm, rfl⟩
    · obtain ⟨rest, hr⟩ := toList_of_hasPrefix h
      exact ⟨'/' :: rest, hr, rfl⟩
  have hd : t.toList = "/.fast/components/".toList ++ (name.toList ++ rest) := by
    rw [ht, show (targetRoot name).toList = _ from String.toList_append]
    exact append_assoc ..
  have hw : (name.toList ++ rest).takeWhile (· ≠ '/') = name.toList := by
    rw [takeWhile_append_of_pos (by grind), hr, append_nil]
  unfold element
  rw [hd]
  exact ⟨length_append ▸ Nat.le_add_right 18 _, hw, rfl⟩

/-! ## The checks -/

theorem Library.label_slash (h : lib.isDNS1123Label name) : '/' ∉ name.toList :=
  fun hm => absurd (lib.label name h _ hm) (by decide)

theorem validateMappings_apart {root : String} {targets : List String} {ms : List Mapping}
    (h : validateMappings lib root targets ms) :
    (ms.map (·.targetPath)).Pairwise Apart ∧ (∀ t ∈ targets, ∀ m ∈ ms, Apart t m.targetPath) ∧
      ∀ m ∈ ms, m.targetPath = root ∨ hasPrefix m.targetPath (root ++ "/") := by
  induction ms generalizing targets with
  | nil => simp
  | cons m ms ih =>
    simp only [validateMappings, Bool.and_eq_true, Bool.or_eq_true, decide_eq_true_eq] at h
    obtain ⟨⟨⟨-, hu⟩, ha⟩, hrest⟩ := h
    obtain ⟨hp, ht, hm⟩ := ih hrest
    refine ⟨pairwise_cons.mpr ⟨?_, hp⟩, ?_, ?_⟩ <;> grind [Apart]

theorem validateInfraComponents_names {names : List String} {ports : List ℤ}
    {cs : List InfraComponent} (h : validateInfraComponents lib names ports cs) :
    (∀ c ∈ cs, c.validate lib ∧ c.name ∉ names ∧ c.port ∉ ports) ∧ (cs.map (·.name)).Nodup ∧
      (cs.map (·.port)).Nodup := by
  induction cs generalizing names ports with
  | nil => simp
  | cons c cs ih =>
    simp only [validateInfraComponents, Bool.and_eq_true, decide_eq_true_eq] at h
    obtain ⟨⟨⟨hv, hn⟩, hp⟩, hrest⟩ := h
    obtain ⟨hc, hns, hps⟩ := ih hrest
    refine ⟨?_, nodup_cons.mpr ⟨?_, hns⟩, nodup_cons.mpr ⟨?_, hps⟩⟩ <;> grind

theorem targets_apart {c : InfraComponent} (h : c.validate lib) :
    c.targets.Pairwise Apart ∧ ∀ t ∈ c.targets, 18 ≤ t.toList.length ∧
      element 18 t = c.name.toList ∧ element 7 t = "components".toList := by
  simp only [InfraComponent.validate, InfraComponent.validateDelivery, Bool.and_eq_true] at h
  obtain ⟨⟨⟨hl, -⟩, hd⟩, -⟩ := h
  unfold InfraComponent.targets
  split_ifs at hd ⊢
  · exact ⟨.nil, nofun⟩
  · cases ha : c.artifact with
    | none => simp [ha] at hd
    | some a =>
      simp only [ha, Option.any_some, Bool.and_eq_true] at hd
      obtain ⟨hp, -, hu⟩ := validateMappings_apart hd.2.2
      refine ⟨hp, fun t ht => ?_⟩
      obtain ⟨m, hm, rfl⟩ := mem_map.mp ht
      exact elements_of_target (lib.label_slash hl) (hu m hm)

variable (pool : SandboxPoolSpec lib)

theorem pool_targets_apart : pool.targets.Pairwise Apart := by
  obtain ⟨hc, hn, -⟩ := validateInfraComponents_names pool.accepted
  refine pairwise_flatMap.mpr ⟨fun c h => (targets_apart (hc c h).1).1, ?_⟩
  refine (pairwise_map.mp hn).imp_of_mem fun {c d} hcm hdm hne t hct u hdu => ?_
  obtain ⟨h1, h2, -⟩ := (targets_apart (hc c hcm).1).2 t hct
  obtain ⟨h3, h4, -⟩ := (targets_apart (hc d hdm).1).2 u hdu
  exact apart_of_element h1 h3 (by rwa [h2, h4, Ne, String.toList_inj])

theorem element_of_mem (h : t ∈ pool.targets) :
    7 ≤ t.toList.length ∧ element 7 t = "components".toList := by
  obtain ⟨c, hc, ht⟩ := mem_flatMap.mp h
  have hv := (validateInfraComponents_names pool.accepted).1 c hc
  obtain ⟨h1, -, h2⟩ := (targets_apart hv.1).2 t ht
  exact ⟨by omega, h2⟩

/-- **No mount meets another**, and no two components share a name or a port. -/
theorem mounts_apart (f : Outcome) : (pool.prepareInstance f).Pairwise Apart ∧
    (pool.infraComponents.map (·.name)).Nodup ∧ (pool.infraComponents.map (·.port)).Nodup := by
  have ha := pool_targets_apart pool
  refine ⟨?_, (validateInfraComponents_names pool.accepted).2⟩
  unfold SandboxPoolSpec.prepareInstance
  split_ifs
  · refine pairwise_cons.mpr ⟨fun t h => ?_,
      pairwise_append.mpr ⟨ha, pairwise_singleton .., fun t h u hu => ?_⟩⟩
    · rcases mem_append.mp h with h | h
      · obtain ⟨hk, he⟩ := element_of_mem pool h
        exact apart_of_element (k := 7) (by decide) hk (by rw [he]; decide)
      · rw [mem_singleton.mp h]
        exact apart_of_element (k := 7) (by decide) (by decide) (by decide)
    · obtain ⟨hk, he⟩ := element_of_mem pool h
      rw [mem_singleton.mp hu]
      exact apart_of_element (k := 7) hk (by decide) (by rw [he]; decide)
  · exact ha
  · exact .nil

/-- Paths that are clean already, and names without a limit to their length. -/
def sampleLibrary : Library where
  clean := id
  trimSpace := id
  parse _ := some ("https", "example.com")
  isDNS1123Label name := name ≠ "" ∧ name.toList.all fun c => c.isLower ∨ c.isDigit ∨ c = '-'
  label name h c hc := by
    have ha := List.all_eq_true.mp (of_decide_eq_true h).2 c hc
    exact of_decide_eq_true ha

def sampleComponent (name : String) (port : ℤ) (targetPaths : List String) : InfraComponent where
  name := name
  delivery := if targetPaths = [] then hostProcess else ""
  artifact := if targetPaths = [] then none else
    some ⟨none, some ("", "".pushn 'a' 64), targetPaths.map fun path => ⟨"/bin", path⟩⟩
  command := ["serve"]
  envNames := []
  restartPolicy := "Always"
  httpGet := none
  tcpConnect := true
  timeoutSeconds := 1
  protocol := "HTTP"
  port := port

/-- Two components in the guest, the name of one a prefix of the other's, and one on the host. -/
def samplePool : SandboxPoolSpec sampleLibrary where
  infraComponents := [sampleComponent "proxy" 80
      ["/.fast/components/proxy/bin", "/.fast/components/proxy/lib"],
    sampleComponent "proxy-2" 81 ["/.fast/components/proxy-2"], sampleComponent "log" 82 []]
  accepted := by decide

theorem samplePool_mounts_apart :
    ∃ mounts, samplePool.prepareInstance ⟨true, true, true, true, true⟩ =
    mounts ∧ mounts.length = 5 ∧ mounts.Pairwise Apart :=
  ⟨_, rfl, by decide, (mounts_apart samplePool _).1⟩

end FastSandbox.Fastlet.Infra
