/-
# An upgrade uses one image

An upgrade asks `cosign` for the digest of the requested tag and from then on names the image by
that digest. Whatever the commands return, every step of the job keeps to it: the images that are
pulled and made into containers, the image that the environment file names, and what gets to the
places of the runtime files. The argument goes through the job step by step, with what is known of
the earlier steps, of the staged bundle and of the backup.
-/

import Wolt.HostAgent.FailedDeployment
import Wolt.HostAgent.RuntimeFiles
import Wolt.Python.Value

namespace Wolt.HostAgent

open Wolt.Python

variable {D : Type}

/-! ## What a step may do -/

/-- `str(entries[0]["critical"]["image"]["docker-manifest-digest"])`, if there is such an entry. -/
def manifestDigest (conversions : Conversions) : Value → Option Text
  | .array (.object entry :: _) =>
      match Dict.get entry "critical".toList with
      | some (.object critical) =>
          match Dict.get critical "image".toList with
          | some (.object image) =>
              (Dict.get image "docker-manifest-digest".toList).map conversions.str
          | _ => none
      | _ => none
  | _ => none

/-- The environment in which `cosign` prints these values; what is no JSON is none. -/
def Environment.printing (environment : Environment D) (conversions : Conversions)
    (printed : History → Option Value) : Environment D :=
  { environment with digest := fun history => (printed history).bind (manifestDigest conversions) }

/-- The step is a run of `cosign verify`. -/
def Effect.IsSignature : Effect → Prop
  | signature _ => True
  | _ => False

/-- The step pulls the image or creates a container from it. -/
def Effect.Uses (effect : Effect) (image : Text) : Prop :=
  effect = .run (.pull image) ∨ effect = .capture (.create image)

/-- The step only removes files. -/
def Effect.IsRemoval : Effect → Prop
  | files (.removeTree _) | files (.discardTree _) | files (.unlink _) => True
  | _ => False

/-- What `docker cp` copies. -/
def copied (environment : Environment D) (history : History) : Files D := fun path =>
  if path = [] then some .directory else environment.bundle history path

section Pinned

variable (environment : Environment D) (start : History) (version : Text)

/-- The first run of `cosign verify` since the start has verified the requested tag, and the image
is named by the digest in its output. -/
def IsPinned (history : History) (image : Text) : Prop :=
  ∃ before after digest,
    history = start ++ before ++ (.signature (imageRepository ++ ':' :: version), true) :: after ∧
      (∀ entry ∈ before, ¬ entry.1.IsSignature) ∧
      environment.digest (start ++ before) = some digest ∧ digestPattern digest = true ∧
      image = imageRepository ++ '@' :: digest

/-- The container was created from the pinned image. -/
def IsContainer (history : History) (container : Text) : Prop :=
  ∃ before after image,
    history = before ++ (.capture (.create image), true) :: after ∧
      IsPinned environment start version before image ∧
      container = strip (environment.output before (.create image))

/-- The bundle was copied from such a container, and is of the requested version. -/
def IsBundle (history : History) (bundle : Files D) : Prop :=
  ∃ before after container staging text,
    history = before ++ (.run (.copyBundle container staging), true) :: after ∧
      IsContainer environment start version before container ∧
      bundle = copied environment before ∧
      bundle ["VERSION".toList] = some (.file (.text text)) ∧ strip text = canonicalVersion version

end Pinned

/-- The key of the image in the environment file. -/
def imageKey : Text := "WOLT_IMAGE".toList

section Upgrade

variable (environment : Environment D) (host : Host D) (version : Text)

/-- The environment file names the image that it named before the job, or the pinned one. -/
def NamesImage (history : History) (env : Text) : Prop :=
  (envValues env).get imageKey = (envValues host.env).get imageKey ∨
    ∃ image, IsPinned environment host.history version history image ∧
      (envValues env).get imageKey = some image

/-- The content is the place's part of a bundle from the pinned image, or what was there before the
job. -/
def IsRightful (history : History) (place : Place) (content : Files D) : Prop :=
  (∃ bundle, IsBundle environment host.history version history bundle ∧
    content = place.ofBundle bundle) ∨ content = place.content host.files

/-- A step of an upgrade that started from `host`, in the state `host'`: only the pinned image is
used, only its bundle is extracted, the environment file names no other image, and a place is left
alone, cleared or given a rightful content. -/
structure Heeds (effect : Effect) (host' : Host D) : Prop where
  image : ∀ image, effect.Uses image → IsPinned environment host.history version host'.history image
  container : ∀ container staging, effect = .run (.copyBundle container staging) →
    IsContainer environment host.history version host'.history container
  names : NamesImage environment host version host'.history host'.env
  runtime : ∀ place : Place,
    place.content (environment.step effect host').2.files = place.content host'.files ∨
      effect.IsRemoval ∨
      IsRightful environment host version host'.history place
        (place.content (environment.step effect host').2.files)

end Upgrade

/-! ## What is known of the steps so far -/

section Facts

variable {environment : Environment D} {start : History} {version : Text}

theorem IsPinned.append {history : History} {image : Text}
    (h : IsPinned environment start version history image) (later : History) :
    IsPinned environment start version (history ++ later) image := by
  obtain ⟨before, after, digest, rfl, hrest⟩ := h
  exact ⟨before, after ++ later, digest, by simp, hrest⟩

theorem IsContainer.append {history : History} {container : Text}
    (h : IsContainer environment start version history container) (later : History) :
    IsContainer environment start version (history ++ later) container := by
  obtain ⟨before, after, image, rfl, hrest⟩ := h
  exact ⟨before, after ++ later, image, by simp, hrest⟩

theorem IsBundle.append {history : History} {bundle : Files D}
    (h : IsBundle environment start version history bundle) (later : History) :
    IsBundle environment start version (history ++ later) bundle := by
  obtain ⟨before, after, container, staging, text, rfl, hrest⟩ := h
  exact ⟨before, after ++ later, container, staging, text, by simp, hrest⟩

/-- Where the first entry of a kind stands is determined. -/
theorem eq_of_first {p : Effect × Bool → Prop} {before before' after after' : History}
    {entry entry' : Effect × Bool} (h : before ++ entry :: after = before' ++ entry' :: after')
    (hbefore : ∀ item ∈ before, ¬ p item) (hbefore' : ∀ item ∈ before', ¬ p item) (hentry : p entry)
    (hentry' : p entry') : before = before' := by
  rcases List.append_eq_append_iff.1 h with ⟨middle, rfl, hrest⟩ | ⟨middle, rfl, hrest⟩
  · cases middle with
    | nil => simp
    | cons item middle =>
        obtain ⟨rfl, -⟩ := List.cons.inj hrest
        exact absurd hentry (hbefore' _ (by simp))
  · cases middle with
    | nil => simp
    | cons item middle =>
        obtain ⟨rfl, -⟩ := List.cons.inj hrest
        exact absurd hentry' (hbefore _ (by simp))

/-- **One image.** A job has at most one pinned image. -/
theorem IsPinned.unique {history later : History} {image image' : Text}
    (h : IsPinned environment start version history image)
    (h' : IsPinned environment start version (history ++ later) image') : image = image' := by
  obtain ⟨before, after, digest, hhistory, hbefore, hdigest, -, rfl⟩ := h.append later
  obtain ⟨before', after', digest', hhistory', hbefore', hdigest', -, rfl⟩ := h'
  rw [hhistory', List.append_assoc, List.append_assoc, List.append_cancel_left_eq] at hhistory
  obtain rfl := eq_of_first (p := fun entry => entry.1.IsSignature) hhistory hbefore' hbefore
    trivial trivial
  rw [hdigest] at hdigest'
  rw [Option.some.inj hdigest']

end Facts

/-! ## Steps that have nothing to do with it -/

section Steps

variable {environment : Environment D} {host : Host D} {version : Text}

/-- What a step may do, with the condition on the environment file only where it is written. -/
structure Allowed (environment : Environment D) (host : Host D) (version : Text) (effect : Effect)
    (host' : Host D) : Prop where
  image : ∀ image, effect.Uses image → IsPinned environment host.history version host'.history image
  container : ∀ container staging, effect = .run (.copyBundle container staging) →
    IsContainer environment host.history version host'.history container
  names : ∀ text, effect = .writeEnv text → NamesImage environment host version host'.history text
  runtime : ∀ place : Place,
    place.content (environment.step effect host').2.files = place.content host'.files ∨
      effect.IsRemoval ∨
      IsRightful environment host version host'.history place
        (place.content (environment.step effect host').2.files)

/-- The step has nothing to do with images, bundles and the environment file. -/
def Effect.IsPlain : Effect → Prop
  | run (.pull _) | run (.copyBundle _ _) | capture (.create _) | writeEnv _ => False
  | _ => True

/-- The step is plain, and writes to no place. -/
def Effect.IsHarmless (effect : Effect) : Prop :=
  effect.IsPlain ∧ ∀ path, effect.Writes path → ∀ place : Place, ¬ FileTree.Below place.path path

theorem content_step_of_not_writes {effect : Effect} {place : Place} (host' : Host D)
    (h : ∀ path, effect.Writes path → ¬ FileTree.Below place.path path) :
    place.content (environment.step effect host').2.files = place.content host'.files :=
  congrArg place.cut (subtree_step_of_not_writes environment host' fun path hbelow hwrites =>
    h path hwrites hbelow)

/-- Plain steps are allowed when what they do to the places is. -/
theorem allowed_of_isPlain {effect : Effect} {host' : Host D} (hplain : effect.IsPlain)
    (hruntime : ∀ place : Place,
      place.content (environment.step effect host').2.files = place.content host'.files ∨
        effect.IsRemoval ∨
        IsRightful environment host version host'.history place
          (place.content (environment.step effect host').2.files)) :
    Allowed environment host version effect host' where
  image image huses := by
    rcases huses with rfl | rfl <;> exact hplain.elim
  container container staging heffect := by
    subst heffect
    exact hplain.elim
  names text heffect := by
    subst heffect
    exact hplain.elim
  runtime := hruntime

theorem Effect.IsHarmless.allowed {effect : Effect} {host' : Host D} (h : effect.IsHarmless) :
    Allowed environment host version effect host' :=
  allowed_of_isPlain h.1 fun place =>
    .inl (content_step_of_not_writes host' fun path hpath => h.2 path hpath place)

/-- Work on files away from the places is harmless. -/
theorem Effect.IsFileWork.isHarmless {area : Path → Prop} {effect : Effect}
    (h : effect.IsFileWork area)
    (harea : ∀ path, area path → ∀ place : Place, ¬ FileTree.Below place.path path) :
    effect.IsHarmless := by
  refine ⟨?_, fun path hpath => harea path (h.of_writes hpath)⟩
  cases effect with
  | run command => exact h.elim
  | capture command => exact h.elim
  | writeEnv text => exact h.elim
  | _ => trivial

theorem Effect.IsRemoval.allowed {effect : Effect} {host' : Host D} (h : effect.IsRemoval) :
    Allowed environment host version effect host' := by
  refine allowed_of_isPlain ?_ fun place => .inr (.inl h)
  cases effect with
  | files operation => trivial
  | _ => exact h.elim

/-- A place may be given a rightful content. -/
theorem permits_allowed {P : Host D → Prop} {place : Place} {content : Files D}
    (h : ∀ host', P host' → IsRightful environment host version host'.history place content) :
    Permits (Allowed environment host version) P place content where
  around effect host' heffect _ :=
    (heffect.isHarmless fun path hpath other => not_below_of_around hpath).allowed
  removal host' _ := Effect.IsRemoval.allowed trivial
  rename hex host' hhost hseen hdirectory := by
    refine allowed_of_isPlain trivial fun other => ?_
    by_cases hother : other = place
    · subst hother
      rcases step_files environment (.rename (temporaryPath other.path hex) other.path) host' with
        ⟨files, happly, hstep⟩ | hstep
      · rw [hstep, content_of_rename happly hdirectory, hseen]
        exact .inr (.inr (h host' hhost))
      · rw [hstep]
        exact .inl rfl
    · refine .inl (content_step_of_not_writes host' fun path hpath => ?_)
      rcases hpath with hpath | hpath
      · exact not_below_of_around (.inr ⟨hex, hpath⟩)
      · exact not_below_of_beside (Ne.symm hother) (.inr hpath)

end Steps

/-! ## What is written to the environment file -/

/-- A line boundary is neither a digit nor a letter of a pattern. -/
theorem isLineBreak_iff {c : Char} :
    isLineBreak c = true ↔ c.toNat ∈ [10, 11, 12, 13, 28, 29, 30, 0x85, 0x2028, 0x2029] := by
  simp only [isLineBreak, Bool.or_eq_true, Bool.and_eq_true, decide_eq_true_eq, beq_iff_eq,
    List.mem_cons, List.not_mem_nil, or_false]
  omega

theorem isLineBreak_of_isDigitChar {c : Char} (h : isDigitChar c = true) :
    isLineBreak c = false := by
  have hblocks : ∀ n ∈ [10, 11, 12, 13, 28, 29, 30, 0x85, 0x2028, 0x2029], ∀ start ∈ digitBlocks,
      ¬ (start ≤ n ∧ n < start + 10) := by decide
  obtain ⟨start, hstart, hrange⟩ := List.any_eq_true.1 h
  simp only [Bool.and_eq_true, decide_eq_true_eq] at hrange
  refine Bool.eq_false_iff.2 fun hbreak => ?_
  exact hblocks _ (isLineBreak_iff.1 hbreak) start hstart hrange

theorem isLineBreak_of_isAsciiAlphanumeric {c : Char} (h : isAsciiAlphanumeric c = true) :
    isLineBreak c = false := by
  simp only [isAsciiAlphanumeric, Bool.or_eq_true, Bool.and_eq_true, decide_eq_true_eq,
    UInt32.le_iff_toNat_le, Char.le_def] at h
  refine Bool.eq_false_iff.2 fun hbreak => ?_
  have hcode := isLineBreak_iff.1 hbreak
  simp only [Char.toNat, List.mem_cons, List.not_mem_nil, or_false] at hcode
  change (65 ≤ _ ∧ _ ≤ 90 ∨ 97 ≤ _ ∧ _ ≤ 122) ∨ 48 ≤ _ ∧ _ ≤ 57 at h
  omega

theorem isLineBreak_of_isLowerHex {c : Char} (h : isLowerHex c = true) : isLineBreak c = false := by
  refine isLineBreak_of_isAsciiAlphanumeric ?_
  simp only [isLowerHex, isAsciiAlphanumeric, Bool.or_eq_true, Bool.and_eq_true, decide_eq_true_eq,
    UInt32.le_iff_toNat_le, Char.le_def] at h ⊢
  change 48 ≤ _ ∧ _ ≤ 57 ∨ 97 ≤ _ ∧ _ ≤ 102 at h
  change (65 ≤ _ ∧ _ ≤ 90 ∨ 97 ≤ _ ∧ _ ≤ 122) ∨ 48 ≤ _ ∧ _ ≤ 57
  omega

theorem oneLine_afterDigits {rest : Text → Bool} (hrest : ∀ text, rest text = true → OneLine text)
    {text : Text} (h : afterDigits rest text = true) : OneLine text := by
  intro c hc
  rw [← List.takeWhile_append_dropWhile (p := isDigitChar) (l := text)] at hc
  rcases List.mem_append.1 hc with hc | hc
  · exact isLineBreak_of_isDigitChar (List.mem_takeWhile_imp hc)
  · refine hrest _ ?_ c hc
    unfold afterDigits at h
    split at h
    · cases h
    · exact h

theorem oneLine_afterDot {rest : Text → Bool} (hrest : ∀ text, rest text = true → OneLine text)
    {text : Text} (h : afterDot rest text = true) : OneLine text := by
  intro c hc
  unfold afterDot at h
  split at h
  · rcases List.mem_cons.1 hc with rfl | hc
    · decide
    · exact hrest _ h c hc
  · cases h

theorem oneLine_versionSuffix {text : Text} (h : versionSuffix text = true) : OneLine text := by
  intro c hc
  cases text with
  | nil => cases hc
  | cons first text =>
      simp only [versionSuffix, Bool.and_eq_true, Bool.or_eq_true, decide_eq_true_eq] at h
      rcases List.mem_cons.1 hc with rfl | hc
      · rcases h.1.1 with rfl | rfl <;> decide
      · have hchar := List.all_eq_true.1 h.2 c hc
        simp only [Bool.or_eq_true, decide_eq_true_eq] at hchar
        rcases hchar with (hchar | rfl) | rfl
        · exact isLineBreak_of_isAsciiAlphanumeric hchar
        · decide
        · decide

/-- An accepted version stands on one line. -/
theorem oneLine_canonicalVersion {version : Text} (h : versionPattern version = true) :
    OneLine (canonicalVersion version) := by
  have hpattern : ∀ text, afterDigits (afterDot (afterDigits (afterDot
      (afterDigits versionSuffix)))) text = true → OneLine text := fun text =>
    oneLine_afterDigits fun _ => oneLine_afterDot fun _ => oneLine_afterDigits fun _ =>
      oneLine_afterDot fun _ => oneLine_afterDigits fun _ => oneLine_versionSuffix
  have hcons : ∀ {text : Text}, OneLine text → OneLine ('v' :: text) := by
    intro text htext c hc
    rcases List.mem_cons.1 hc with rfl | hc
    · decide
    · exact htext c hc
  unfold versionPattern at h
  unfold canonicalVersion
  split at h
  · rename_i hhead
    rw [if_pos hhead]
    cases version with
    | nil => cases hhead
    | cons c text =>
        obtain rfl := Option.some.inj hhead
        exact hcons (hpattern _ h)
  · rename_i hhead
    rw [if_neg hhead]
    exact hcons (hpattern _ h)

/-- So does an image that is named by a digest. -/
theorem oneLine_of_digestPattern {digest : Text} (h : digestPattern digest = true) :
    OneLine (imageRepository ++ '@' :: digest) := by
  simp only [digestPattern, Bool.and_eq_true, decide_eq_true_eq] at h
  obtain ⟨⟨hkind, -⟩, hhex⟩ := h
  have hrepository : OneLine (imageRepository ++ '@' :: "sha256:".toList) :=
    oneLine_of_all (by decide +kernel)
  intro c hc
  rw [← List.take_append_drop 7 digest, hkind, ← List.cons_append, ← List.append_assoc] at hc
  rcases List.mem_append.1 hc with hc | hc
  · exact hrepository c hc
  · exact isLineBreak_of_isLowerHex (List.all_eq_true.1 hhex c hc)

theorem writable_imageVersion {image version : Text} (himage : OneLine image)
    (hversion : OneLine version) : Writable (imageVersion image version) :=
  writable_pair (by decide) ⟨by unfold IsKey; decide, oneLine_of_all (by decide)⟩
    ⟨by unfold IsKey; decide, oneLine_of_all (by decide)⟩ himage hversion

/-! ## What is known between the steps -/

/-- Facts about the steps so far, that the image is defined at most once, and what is found at some
roots. -/
structure Known (facts : History → Prop) (held : List (Path × (Files D → Prop)))
    (host : Host D) : Prop where
  facts : facts host.history
  once : definitions imageKey host.env ≤ 1
  held : ∀ item ∈ held, item.2 (host.files.subtree item.1)

/-- The facts stay true. -/
def Persistent (facts : History → Prop) : Prop :=
  ∀ history later, facts history → facts (history ++ later)

/-- None of the roots is touched by work on the area. -/
def Untouched (held : List (Path × (Files D → Prop))) (area : Path → Prop) : Prop :=
  ∀ item ∈ held, ∀ path, area path → ¬ FileTree.Below item.1 path

theorem untouched_nothing {held : List (Path × (Files D → Prop))} :
    Untouched held fun _ => False := fun _ _ _ h => h.elim

/-- The step is plain, and writes only inside the area. -/
def Effect.IsAside (area : Path → Prop) (effect : Effect) : Prop :=
  effect.IsPlain ∧ ∀ path, effect.Writes path → area path

section Known

variable {environment : Environment D} {host : Host D} {version : Text} {facts : History → Prop}
  {held : List (Path × (Files D → Prop))} {area : Path → Prop}

theorem Effect.IsPlain.changes {effect : Effect} (h : effect.IsPlain) :
    effect.changes .env = false := by
  cases effect with
  | writeEnv text => exact h.elim
  | run command => cases command <;> rfl
  | _ => rfl

theorem Effect.IsAside.allowed {effect : Effect} {host' : Host D} (h : effect.IsAside area)
    (hplaces : ∀ path, area path → ∀ place : Place, ¬ FileTree.Below place.path path) :
    Allowed environment host version effect host' :=
  Effect.IsHarmless.allowed ⟨h.1, fun path hpath => hplaces path (h.2 path hpath)⟩

/-- One step aside. -/
theorem aside_perform (effect : Effect) (hplain : effect.IsPlain)
    (hwrites : ∀ path, effect.Writes path → area path) :
    (perform effect).Only (Effect.IsAside area) := ⟨⟨hplain, hwrites⟩, fun _ => trivial⟩

theorem Known.step (hfacts : Persistent facts) (harea : Untouched held area) {effect : Effect}
    (henv : effect.changes .env = false) (hwrites : ∀ path, effect.Writes path → area path)
    {host' : Host D} (h : Known facts held host') :
    Known facts held (environment.step effect host').2 where
  facts := hfacts _ _ h.facts
  once := by
    rw [env_step environment host' henv]
    exact h.once
  held item hitem := by
    rw [subtree_step_of_not_writes environment host' fun path hbelow hpath =>
      harea item hitem path (hwrites path hpath) hbelow]
    exact h.held item hitem

theorem stable_known (hfacts : Persistent facts) (harea : Untouched held area) :
    Stable environment area (Known facts held) := fun _ _ heffect h =>
  h.step hfacts harea (heffect.changes (by decide)) fun _ => heffect.of_writes

/-- Plain work on an area away from the places is allowed, and what is known stays known. -/
theorem behaves_aside {α : Type} {task : Task α} (htask : task.Only (Effect.IsAside area))
    (hplaces : ∀ path, area path → ∀ place : Place, ¬ FileTree.Below place.path path)
    (hfacts : Persistent facts) (harea : Untouched held area) :
    Behaves environment (Allowed environment host version) (Known facts held) task
      (fun _ => Known facts held) fun _ => Known facts held :=
  .of_only htask
    (fun _ _ heffect _ => heffect.allowed hplaces)
    fun _ _ heffect h => h.step hfacts harea heffect.1.changes heffect.2

/-- The same where no file is written. -/
theorem behaves_plain {α : Type} {task : Task α}
    (htask : task.Only (Effect.IsAside fun _ => False)) (hfacts : Persistent facts) :
    Behaves environment (Allowed environment host version) (Known facts held) task
      (fun _ => Known facts held) fun _ => Known facts held :=
  behaves_aside htask (fun _ h => h.elim) hfacts untouched_nothing

theorem aside_runFiles (operation : FileOperation)
    (hwrites : ∀ path, operation.Writes path → area path) :
    (runFiles operation).Only (Effect.IsAside area) :=
  .bind (aside_perform _ trivial hwrites) fun _ => Program.only_require _ _

/-- A plain command that writes nothing. -/
theorem aside_runCommand (command : Command) (hplain : (Effect.run command).IsPlain)
    (hwrites : ∀ path, ¬ (Effect.run command).Writes path) :
    (runCommand command).Only (Effect.IsAside area) :=
  .bind (aside_perform _ hplain fun path hpath => (hwrites path hpath).elim) fun _ =>
    Program.only_require _ _

/-- The image is written to the environment file: the pinned one, or the one from before the job. -/
theorem behaves_updateEnvFile {changes : Dict Text} (hwritable : Writable changes) {value : Text}
    (hvalue : changes.get imageKey = some value)
    (hnames : ∀ history, facts history → (envValues host.env).get imageKey = some value ∨
      IsPinned environment host.history version history value) (hfacts : Persistent facts) :
    Behaves environment (Allowed environment host version) (Known facts held)
      (updateEnvFile changes) (fun _ => Known facts held) fun _ => Known facts held := by
  refine .bind (behaves_plain (aside_perform .isEnvRegular trivial fun _ h => h) hfacts)
    fun regular => ?_
  refine .bind (Q := fun _ => Known facts held) (.of_require (fun _ _ h => h) fun _ _ h => h)
    fun _ => ?_
  have hread : Effect.readEnv.IsAside fun _ => False := ⟨trivial, fun _ h => h⟩
  refine .bind (Q := fun text host' => definitions imageKey text ≤ 1 ∧ Known facts held host')
    (.of_perform (fun host' _ => hread.allowed fun _ h => h.elim)
      fun host' h => ⟨h.once, h.step hfacts untouched_nothing rfl hread.2⟩) fun text => ?_
  refine .of_const fun honce => .of_perform (fun host' h => ?_) fun host' h => ?_
  · have hread : (envValues (updateEnv changes text)).get imageKey = some value := by
      rw [get_envValues_updateEnv hwritable, hvalue]
      exact if_pos honce
    refine ⟨fun image huses => ?_, nofun, ?_, fun place => .inl rfl⟩
    · rcases huses with huses | huses <;> cases huses
    · rintro _ ⟨rfl⟩
      rcases hnames host'.history h.facts with hbefore | hpinned
      · exact .inl (hread.trans hbefore.symm)
      · exact .inr ⟨value, hpinned, hread⟩
  · refine ⟨hfacts _ _ h.facts, ?_, h.held⟩
    simp only [Environment.step, Environment.act, definitions_updateEnv hwritable hvalue]
    omega

end Known

/-! ## The image -/

/-- Every place has what it had before the job. -/
def heldPlaces (host : Host D) : List (Path × (Files D → Prop)) :=
  [Place.composeFile, .hostAgentComposeFile, .version, .runtime, .agent].map fun place =>
    (place.path, fun tree => place.cut tree = place.content host.files)

/-- The job has not asked for a signature yet, and has changed nothing. -/
structure Begun (host host' : Host D) : Prop where
  later : ∃ later, host'.history = host.history ++ later ∧ ∀ entry ∈ later, ¬ entry.1.IsSignature
  env : host'.env = host.env
  files : host'.files = host.files

section Image

variable {environment : Environment D} {host : Host D} {version : Text}

theorem mem_heldPlaces {item : Path × (Files D → Prop)} :
    item ∈ heldPlaces host ↔ ∃ place : Place,
      (place.path, fun tree => place.cut tree = place.content host.files) = item := by
  constructor
  · intro h
    obtain ⟨place, -, rfl⟩ := List.mem_map.1 h
    exact ⟨place, rfl⟩
  · rintro ⟨place, rfl⟩
    exact List.mem_map.2 ⟨place, by cases place <;> simp, rfl⟩

theorem untouched_heldPlaces {area : Path → Prop}
    (harea : ∀ path, area path → ∀ place : Place, ¬ FileTree.Below place.path path) :
    Untouched (heldPlaces host) area := by
  intro item hitem path hpath
  obtain ⟨place, rfl⟩ := mem_heldPlaces.1 hitem
  exact harea path hpath place

theorem Begun.step {effect : Effect} {host' : Host D} (h : Begun host host')
    (hplain : effect.IsAside fun _ => False) (hsignature : ¬ effect.IsSignature) :
    Begun host (environment.step effect host').2 where
  later := by
    obtain ⟨later, hlater, hnone⟩ := h.later
    refine ⟨later ++ [(effect, (environment.act effect host').2.1)], ?_, fun entry hentry => ?_⟩
    · simp [Environment.step, hlater]
    · rcases List.mem_append.1 hentry with hentry | hentry
      · exact hnone entry hentry
      · rw [List.mem_singleton.1 hentry]
        exact hsignature
  env := (env_step environment host' hplain.1.changes).trans h.env
  files := by
    funext path
    rw [files_step_of_not_writes environment host' (hplain.2 path), h.files]

theorem hasImage_eq_false (h : ∀ image, (envValues host.env).get imageKey = some image →
    image = []) :
    Environment.hasImage host = false := by
  have himage : envValue host.env imageKey [] = [] := by
    rw [envValue]
    cases hvalue : (envValues host.env).get imageKey with
    | none => rfl
    | some image => exact h image hvalue
  exact decide_eq_false (not_not.2 himage)

/-- The previous image is the one in the environment file: where there is none, `docker compose`
does not run. -/
theorem meets_previousImage (env : Text) :
    Meets environment (fun host' => host'.env = env) (previousImage (envValues env))
      (fun image _ => (envValues env).get imageKey = some image) fun _ _ => True := by
  have hmissing : (∀ image, (envValues env).get imageKey = some image → image = []) →
      Meets environment (fun host' => host'.env = env) currentImage
        (fun image _ => (envValues env).get imageKey = some image) fun _ _ => True := by
    intro h
    refine .bind (Q := fun _ _ => False) (.bind (Q := fun output _ => output = none)
      (.of_perform fun host' henv => ?_) fun output => ?_) fun _ => fun _ hfalse => hfalse.elim
    · subst henv
      simp [Environment.step, Environment.act, hasImage_eq_false h]
    · refine .bind (Q := fun _ _ => False) (.of_orThrow (fun value hvalue _ hnone => ?_)
        fun _ _ _ => trivial) fun _ => fun _ hfalse => hfalse.elim
      rw [hnone] at hvalue
      cases hvalue
  unfold previousImage
  split
  · rename_i hnone
    exact hmissing fun image himage => by cases hnone.symm.trans himage
  · rename_i hempty
    exact hmissing fun image himage => (Option.some.inj (hempty.symm.trans himage)).symm
  · rename_i image _ himage
    exact .of_pure fun _ _ => himage

/-- Looking for the previous image only runs `docker`. -/
theorem behaves_previousImage :
    Behaves environment (Allowed environment host version) (Begun host)
      (previousImage (envValues host.env))
      (fun image host' => (envValues host.env).get imageKey = some image ∧ Begun host host')
      fun _ _ => True := by
  have hlook : (previousImage (envValues host.env)).Only fun effect =>
      (effect.IsAside fun _ => False) ∧ ¬ effect.IsSignature := by
    have hcapture : ∀ command, (Effect.capture command).IsPlain →
        (runCapture command).Only fun effect =>
          (effect.IsAside fun _ => False) ∧ ¬ effect.IsSignature := fun command hplain =>
      .bind ⟨⟨⟨hplain, fun _ h => h⟩, id⟩, fun _ => trivial⟩ fun output =>
        .bind (Program.only_orThrow _ _) fun _ => trivial
    have hcurrent : currentImage.Only fun effect =>
        (effect.IsAside fun _ => False) ∧ ¬ effect.IsSignature :=
      .bind (hcapture .container trivial) fun container => .bind (Program.only_require _ _) fun _ =>
        .bind (hcapture (.imageOf container) trivial) fun image =>
          .bind (Program.only_require _ _) fun _ => trivial
    unfold previousImage
    split
    · exact hcurrent
    · exact hcurrent
    · trivial
  have hbegun : Behaves environment (Allowed environment host version) (Begun host)
      (previousImage (envValues host.env)) (fun _ => Begun host) fun _ => Begun host :=
    .of_only hlook (fun _ _ heffect _ => heffect.1.allowed fun _ h => h.elim)
      fun _ _ heffect h => h.step heffect.1 heffect.2
  exact (hbegun.and_meets (meets_previousImage host.env)).mono (fun _ h => ⟨h, h.env⟩)
    (fun _ _ h => ⟨h.2, h.1⟩) fun _ _ _ => trivial

theorem IsPinned.oneLine {start history : History} {image : Text}
    (h : IsPinned environment start version history image) : OneLine image := by
  obtain ⟨_, _, digest, -, -, -, hdigest, rfl⟩ := h
  exact oneLine_of_digestPattern hdigest

theorem persistent_isPinned {start : History} {image : Text} :
    Persistent fun history => IsPinned environment start version history image :=
  fun _ later h => h.append later

/-- What is known before the job asks for a signature. -/
theorem Begun.known {host' : Host D} (h : Begun host host')
    (honce : definitions imageKey host.env ≤ 1) :
    Known (fun _ => True) (heldPlaces host) host' where
  facts := trivial
  once := by rwa [h.env]
  held item hitem := by
    obtain ⟨place, rfl⟩ := mem_heldPlaces.1 hitem
    rw [h.files]
    rfl

/-- What `cosign` has verified is pinned. -/
theorem behaves_verifiedImage (honce : definitions imageKey host.env ≤ 1) :
    Behaves environment (Allowed environment host version) (Begun host) (verifiedImage version)
      (fun image => Known (fun history => IsPinned environment host.history version history image)
        (heldPlaces host))
      fun _ _ => True := by
  have hlook : (Effect.isFile cosignBinary).IsAside fun _ => False := ⟨trivial, fun _ h => h⟩
  have hsignature : (Effect.signature (imageRepository ++ ':' :: version)).IsAside fun _ => False :=
    ⟨trivial, fun _ h => h⟩
  refine .bind (Q := fun _ => Begun host)
    (.of_perform (fun host' _ => hlook.allowed fun _ h => h.elim)
      fun host' h => h.step hlook id) fun available => ?_
  refine .bind (Q := fun _ => Begun host) (.of_require (fun _ _ h => h) fun _ _ _ => trivial)
    fun _ => ?_
  refine .bind (Q := fun output host' => ∀ digest, output.join = some digest →
      digestPattern digest = true →
      Known (fun history => IsPinned environment host.history version history
        (imageRepository ++ '@' :: digest)) (heldPlaces host) host')
    (.of_perform (fun host' _ => hsignature.allowed fun _ h => h.elim)
      fun host' h digest hdigest hpattern => ?_) fun output => ?_
  · obtain ⟨later, hlater, hnone⟩ := h.later
    simp only [Environment.step, Environment.act] at hdigest ⊢
    split at hdigest
    · rename_i hsucceeds
      rw [if_pos hsucceeds]
      refine ⟨⟨later, [], digest, by rw [hlater], hnone, ?_, hpattern, rfl⟩,
        (h.known honce).once, (h.known honce).held⟩
      rw [← hlater]
      exact hdigest
    · cases hdigest
  refine .bind (Q := fun digest host' => digestPattern digest = true →
      Known (fun history => IsPinned environment host.history version history
        (imageRepository ++ '@' :: digest)) (heldPlaces host) host')
    (.of_orThrow (fun digest hdigest host' h => h digest hdigest) fun _ _ _ => trivial)
    fun digest => ?_
  refine .bind (Q := fun _ => Known
    (fun history => IsPinned environment host.history version history
      (imageRepository ++ '@' :: digest)) (heldPlaces host))
    (.of_require (fun hpattern _ h => h hpattern) fun _ _ _ => trivial) fun _ => ?_
  exact .of_pure fun _ h => h

end Image

/-! ## The bundle -/

section Bundle

variable {environment : Environment D} {host : Host D} {version : Text}

/-- The agent's own files are away from the places. -/
theorem not_below_of_stateArea {path : Path} (h : path = [] ∨ path.head? = some stateRoot)
    (place : Place) : ¬ FileTree.Below place.path path := by
  intro hbelow
  have hne : place.path ≠ [] := by cases place <;> exact List.cons_ne_nil _ _
  have hroot : place.path.head? ≠ some stateRoot := by cases place <;> decide +kernel
  rcases h with rfl | h
  · have hlength := length_le_of_below hbelow
    rw [place.length_path] at hlength
    exact absurd hlength (by decide)
  · exact hroot ((head?_of_below hbelow hne).symm.trans h)

/-- Harmless steps and removals are allowed, whatever is known. -/
theorem behaves_free {α : Type} {task : Task α}
    (htask : task.Only fun effect => effect.IsHarmless ∨ effect.IsRemoval) :
    Behaves environment (Allowed environment host version) (fun _ => True) task (fun _ _ => True)
      fun _ _ => True :=
  .of_only htask (fun _ _ heffect _ => heffect.elim Effect.IsHarmless.allowed
    Effect.IsRemoval.allowed) fun _ _ _ _ => trivial

theorem head?_stagingPath (uuid : Text) : (stagingPath uuid).head? = some stateRoot := rfl

/-- The container is created from the pinned image. -/
theorem behaves_create {image : Text} :
    Behaves environment (Allowed environment host version)
      (Known (fun history => IsPinned environment host.history version history image)
        (heldPlaces host))
      (runCapture (.create image))
      (fun container => Known (fun history =>
        IsPinned environment host.history version history image ∧
          IsContainer environment host.history version history container) (heldPlaces host))
      fun _ _ => True := by
  have hkept : ∀ host' : Host D, Known (fun history =>
      IsPinned environment host.history version history image) (heldPlaces host) host' →
      Known (fun history => IsPinned environment host.history version history image)
        (heldPlaces host) (environment.step (.capture (.create image)) host').2 := fun host' h =>
    Known.step persistent_isPinned untouched_nothing rfl
      (show ∀ path, (Effect.capture (.create image)).Writes path → False from fun _ => id) h
  refine .bind (Q := fun output host' => ∀ value, output = some value →
      Known (fun history => IsPinned environment host.history version history image ∧
        IsContainer environment host.history version history (strip value)) (heldPlaces host) host')
    (.of_perform (fun host' h => ⟨?_, nofun, nofun, fun place => .inl ?_⟩)
    fun host' h value hvalue =>
      ⟨⟨(hkept host' h).facts, ?_⟩, (hkept host' h).once, (hkept host' h).held⟩) fun output => ?_
  · rintro image' (huses | huses) <;> cases huses
    exact h.facts
  · exact content_step_of_not_writes host' fun _ hwrites => hwrites.elim
  · simp only [Environment.step, Environment.act, Bool.and_true] at hvalue ⊢
    split at hvalue
    · rename_i hsucceeds
      rw [if_pos hsucceeds]
      exact ⟨host'.history, [], image, rfl, h.facts, by rw [Option.some.inj hvalue]⟩
    · cases hvalue
  · exact .bind (Q := fun value => Known (fun history =>
        IsPinned environment host.history version history image ∧
          IsContainer environment host.history version history (strip value)) (heldPlaces host))
      (.of_orThrow (fun value hvalue host' h => h value hvalue) fun _ _ _ => trivial)
      fun value => .of_pure fun _ h => h

/-- What is known once the bundle has been copied. -/
abbrev Unpacked (environment : Environment D) (host : Host D) (version image : Text)
    (staging : Path) (container : Text) (before : History) : Host D → Prop :=
  Known (fun history =>
      IsPinned environment host.history version history image ∧
        IsContainer environment host.history version before container ∧
        ∃ after, history = before ++ (.run (.copyBundle container staging), true) :: after)
    ((staging, fun tree => tree = copied environment before) :: heldPlaces host)

theorem persistent_unpacked {image container : Text} {staging : Path} {before : History} :
    Persistent fun history => IsPinned environment host.history version history image ∧
      IsContainer environment host.history version before container ∧
      ∃ after, history = before ++ (.run (.copyBundle container staging), true) :: after := by
  rintro history later ⟨hpinned, hcontainer, after, rfl⟩
  exact ⟨hpinned.append later, hcontainer, after ++ later, by simp⟩

/-- A container's bundle is copied to the staging directory. -/
theorem behaves_copyBundle {image container : Text} {staging : Path}
    (hstaging : staging.head? = some stateRoot) :
    Behaves environment (Allowed environment host version)
      (Known (fun history => IsPinned environment host.history version history image ∧
        IsContainer environment host.history version history container) (heldPlaces host))
      (runCommand (.copyBundle container staging))
      (fun _ host' => ∃ before,
        Unpacked environment host version image staging container before host')
      fun _ _ => True := by
  have harea : ∀ path, FileTree.Below staging path → ∀ place : Place,
      ¬ FileTree.Below place.path path := fun path hpath =>
    not_below_of_stateArea (.inr ((head?_of_below hpath (by rintro rfl; cases hstaging)).trans
      hstaging))
  have hwrites : ∀ path, (Effect.run (.copyBundle container staging)).Writes path →
      FileTree.Below staging path := fun _ => id
  refine .bind (Q := fun success host' => success = true →
      ∃ before, Unpacked environment host version image staging container before host')
    (.of_perform (fun host' h => ⟨?_, ?_, nofun, fun place => .inl ?_⟩) fun host' h hsuccess => ?_)
    fun success => .of_require (fun hsuccess _ h => h hsuccess) fun _ _ _ => trivial
  · rintro image' (huses | huses) <;> cases huses
  · rintro _ _ ⟨rfl, rfl⟩
    exact h.facts.2
  · exact content_step_of_not_writes host' fun path hpath => harea path (hwrites path hpath) place
  · have hkept : Known (fun history => IsPinned environment host.history version history image ∧
        IsContainer environment host.history version history container) (heldPlaces host)
        (environment.step (.run (.copyBundle container staging)) host').2 :=
      h.step (fun _ later h => ⟨h.1.append later, h.2.append later⟩)
        (untouched_heldPlaces harea) rfl
        hwrites
    refine ⟨host'.history, ⟨⟨hkept.facts.1, h.facts.2, [], ?_⟩, hkept.once, fun item hitem => ?_⟩⟩
    · cases hsucceeds : environment.succeeds host'.history
        (.run (.copyBundle container staging)) with
      | false => simp [Environment.step, Environment.act, hsucceeds] at hsuccess
      | true => simp [Environment.step, Environment.act, Environment.execute, hsucceeds]
    · rcases List.mem_cons.1 hitem with rfl | hitem
      · cases hsucceeds : environment.succeeds host'.history
          (.run (.copyBundle container staging)) with
        | false => simp [Environment.step, Environment.act, hsucceeds] at hsuccess
        | true =>
            simp only [Environment.step, Environment.act, Environment.execute, hsucceeds,
              FileTree.subtree_graft]
            rfl
      · exact hkept.held item hitem

theorem aside_requireFiles {area : Path → Prop} (root : Path) (paths : List Path) :
    (requireFiles root paths).Only (Effect.IsAside area) := by
  induction paths with
  | nil => trivial
  | cons relative rest ih =>
      exact .bind (aside_perform _ trivial fun _ h => h.elim) fun found =>
        .bind (Program.only_require _ _) fun _ => ih

/-- The version in the bundle is looked at. -/
theorem behaves_validateRuntime {image container : Text} {staging : Path} {before : History} :
    Behaves environment (Allowed environment host version)
      (Unpacked environment host version image staging container before)
      (validateRuntime staging version)
      (fun _ => Known (fun history => IsPinned environment host.history version history image ∧
          IsBundle environment host.history version history (copied environment before))
        ((staging, fun tree => tree = copied environment before) :: heldPlaces host))
      fun _ _ => True := by
  have hread : (Effect.readText (staging ++ ["VERSION".toList])).IsAside fun _ => False :=
    ⟨trivial, fun _ h => h⟩
  refine .bind ((behaves_plain (aside_perform (.hasSymlink staging) trivial fun _ h => h)
    persistent_unpacked).mono (fun _ h => h) (fun _ _ h => h) fun _ _ _ => trivial)
      fun symlink => ?_
  refine .bind (Q := fun _ => Unpacked environment host version image staging container before)
    (.of_require (fun _ _ h => h) fun _ _ _ => trivial) fun _ => ?_
  refine .bind ((behaves_plain (aside_requireFiles _ _) persistent_unpacked).mono (fun _ h => h)
    (fun _ _ h => h) fun _ _ _ => trivial) fun _ => ?_
  refine .bind (Q := fun reply host' => (∀ text, reply = some text →
      copied environment before ["VERSION".toList] = some (.file (.text text))) ∧
      Unpacked environment host version image staging container before host')
    (.of_perform (fun host' _ => hread.allowed fun _ h => h.elim) fun host' h =>
      ⟨fun text htext => ?_, h.step persistent_unpacked untouched_nothing rfl hread.2⟩)
        fun reply => ?_
  · have htree : host'.files.subtree staging = copied environment before :=
      h.held _ List.mem_cons_self
    rw [← htree]
    simp only [Environment.step, Environment.act] at htext
    split at htext
    · rename_i hentry
      rw [← Option.some.inj htext]
      exact hentry
    · cases htext
  refine .of_const fun hreply => ?_
  refine .bind (Q := fun text host' => reply = some text ∧
      Unpacked environment host version image staging container before host')
    (.of_orThrow (fun text htext _ h => ⟨htext, h⟩) fun _ _ _ => trivial) fun text =>
      .of_const fun htext => ?_
  refine .of_require (fun hversion host' h => ⟨⟨h.facts.1, ?_⟩, h.once, h.held⟩) fun _ _ _ =>
    trivial
  obtain ⟨after, hhistory⟩ := h.facts.2.2
  exact ⟨before, after, container, staging, text, hhistory, h.facts.2.1, rfl, hreply text htext,
    hversion⟩

/-- What is known while the bundle is staged. -/
abbrev Staged (environment : Environment D) (host : Host D) (version image : Text) (staging : Path)
    (bundle : Files D) : Host D → Prop :=
  Known (fun history => IsPinned environment host.history version history image ∧
      IsBundle environment host.history version history bundle)
    ((staging, fun tree => tree = bundle) :: heldPlaces host)

theorem persistent_staged {image : Text} {bundle : Files D} :
    Persistent fun history => IsPinned environment host.history version history image ∧
      IsBundle environment host.history version history bundle :=
  fun _ later h => ⟨h.1.append later, h.2.append later⟩

/-- The staging directory is removed when what is done with it fails. -/
theorem behaves_discardingOnError {α : Type} {staging : Path} {body : Task α} {P : Host D → Prop}
    {Q : α → Host D → Prop}
    (h : Behaves environment (Allowed environment host version) P body Q fun _ _ => True) :
    Behaves environment (Allowed environment host version) P (discardingOnError staging body) Q
      fun _ _ => True :=
  h.tryCatch fun _ => .bind (behaves_free ⟨.inr trivial, fun _ => trivial⟩) fun _ =>
    .of_throw fun _ _ => trivial

theorem aside_removeContainer {area : Path → Prop} (container : Text) :
    (removeContainer container).Only (Effect.IsAside area) := by
  unfold removeContainer
  split
  · trivial
  · exact .bind (aside_perform _ trivial fun _ h => h.elim) fun _ => Program.only_require _ _

theorem Effect.IsAside.isHarmless {effect : Effect} (h : effect.IsAside fun _ => False) :
    effect.IsHarmless := ⟨h.1, fun path hpath => (h.2 path hpath).elim⟩

/-- `try: body finally: cleanup`, where the cleanup is plain. -/
theorem behaves_finally {α : Type} {body : Task α} {cleanup : Task Unit} {P : Host D → Prop}
    {Q : α → Host D → Prop}
    (hbody : Behaves environment (Allowed environment host version) P body Q fun _ _ => True)
    (hfree : cleanup.Only fun effect => effect.IsHarmless ∨ effect.IsRemoval)
    (hcleanup : ∀ value, Behaves environment (Allowed environment host version) (Q value) cleanup
      (fun _ => Q value) fun _ _ => True) :
    Behaves environment (Allowed environment host version) P (finally' body cleanup) Q
      fun _ _ => True :=
  .bind (hbody.tryCatch fun _ => .bind (behaves_free hfree) fun _ => .of_throw fun _ _ => trivial)
    fun value => .bind (hcleanup value) fun _ => .of_pure fun _ h => h

/-- The bundle is staged, or there is none. -/
theorem behaves_extractRuntime {image : Text} :
    Behaves environment (Allowed environment host version)
      (Known (fun history => IsPinned environment host.history version history image)
        (heldPlaces host))
      (extractRuntime image version)
      (fun staging host' => ∃ uuid bundle, staging = stagingPath uuid ∧
        Staged environment host version image staging bundle host')
      fun _ _ => True := by
  refine .bind ((behaves_plain (aside_perform .uuid trivial fun _ h => h)
    persistent_isPinned).mono (fun _ h => h) (fun _ _ h => h) fun _ _ _ => trivial) fun uuid => ?_
  have habove : ∀ path, FileTree.Below path (stagingPath uuid) → ∀ place : Place,
      ¬ FileTree.Below place.path path := fun path hpath =>
    not_below_of_stateArea (head?_of_above (head?_stagingPath uuid) hpath)
  refine .bind ((behaves_aside (aside_runFiles (.makeDirectory (stagingPath uuid) false)
    fun _ h => h) habove persistent_isPinned (untouched_heldPlaces habove)).mono
    (fun _ h => h) (fun _ _ h => h) fun _ _ _ => trivial) fun _ => ?_
  refine .bind (behaves_discardingOnError behaves_create) fun container => ?_
  refine .bind (behaves_finally (Q := fun _ host' => ∃ before, Known (fun history =>
      IsPinned environment host.history version history image ∧
        IsBundle environment host.history version history (copied environment before))
      ((stagingPath uuid, fun tree => tree = copied environment before) :: heldPlaces host) host')
    (behaves_discardingOnError ?_) ?_ fun _ => ?_) fun _ => .of_pure fun host' ⟨before, h⟩ =>
      ⟨uuid, _, rfl, h⟩
  · refine .bind (Q := fun _ => Known (fun history =>
      IsPinned environment host.history version history image ∧
        IsContainer environment host.history version history container) (heldPlaces host))
      (.of_require (fun _ _ h => h) fun _ _ _ => trivial) fun _ => ?_
    refine .bind (behaves_copyBundle (head?_stagingPath uuid)) fun _ => .of_exists fun before => ?_
    exact behaves_validateRuntime.mono (fun _ h => h) (fun _ _ h => ⟨before, h⟩) fun _ _ h => h
  · exact (aside_removeContainer container).mono fun _ h => .inl (Effect.IsAside.isHarmless h)
  · refine .of_exists fun before => ?_
    exact (behaves_plain (aside_removeContainer container) persistent_staged).mono (fun _ h => h)
      (fun _ _ h => ⟨before, h⟩) fun _ _ _ => trivial

end Bundle

/-! ## The backup and the installation -/

section Deployment

variable {environment : Environment D} {host : Host D} {version : Text}

/-- Work in a directory is away from another one that is neither above nor below it. -/
theorem not_below_of_backupArea {first second path : Path} (h : ¬ FileTree.Below first second)
    (h' : ¬ FileTree.Below second first) (hpath : BackupArea first path) :
    ¬ FileTree.Below second path := by
  intro hbelow
  rcases hpath with hpath | hpath
  · exact h' (hbelow.trans hpath)
  · rcases FileTree.below_or_below hpath hbelow with hfirst | hsecond
    · exact h hfirst
    · exact h' hsecond

theorem not_below_of_ne {first second : Text} (h : first ≠ second) (rest : Path) :
    ¬ FileTree.Below (stateDir ++ [first]) (stateDir ++ second :: rest) := by
  rw [FileTree.below_append_append]
  simp [FileTree.Below, FileTree.relative, h]

/-- The staging directory is none of the other directories of the agent. -/
theorem stagingName_ne (uuid : Text) {name : Text}
    (h : name.take 16 ≠ "runtime-staging-".toList) : "runtime-staging-".toList ++ uuid ≠ name := by
  rintro rfl
  exact h (List.take_left' rfl)

theorem stagingPath_apart (uuid : Text) {name : Text} (rest : Path)
    (h : name.take 16 ≠ "runtime-staging-".toList) :
    ¬ FileTree.Below (stagingPath uuid) (stateDir ++ name :: rest) ∧
      ¬ FileTree.Below (stateDir ++ name :: rest) (stagingPath uuid) := by
  refine ⟨not_below_of_ne (stagingName_ne uuid h) rest, fun hbelow => ?_⟩
  refine not_below_of_ne (Ne.symm (stagingName_ne uuid h)) [] ?_
  refine FileTree.Below.trans ?_ hbelow
  rw [FileTree.below_append_append]
  exact FileTree.below_append [name] rest

/-- The places that are backed up are those from before the job. -/
abbrev BackedUp (environment : Environment D) (host : Host D) (version image : Text)
    (bundle : Files D) (backup : Path) : Host D → Prop :=
  Known (fun history => IsPinned environment host.history version history image ∧
      IsBundle environment host.history version history bundle)
    [(backup, IsBackup fun place => place.content host.files)]

theorem aside_readEnvValues {area : Path → Prop} : readEnvValues.Only (Effect.IsAside area) :=
  .bind (aside_perform .readEnv trivial fun _ h => h.elim) fun _ => trivial

theorem aside_databaseIdentity {area : Path → Prop} : databaseIdentity.Only (Effect.IsAside area) :=
  .bind aside_readEnvValues fun _ => .bind (Program.only_require _ _) fun _ => trivial

theorem aside_databaseBackup : databaseBackup.Only (Effect.IsAside (BackupArea backupsDir)) := by
  have hbelow : ∀ uuid path, path = dumpPath uuid → BackupArea backupsDir path := by
    rintro uuid path rfl
    exact .inr (FileTree.below_append _ _)
  refine .bind aside_databaseIdentity fun names => .bind (aside_runFiles _ fun _ => .inl)
    fun _ => ?_
  refine .bind (aside_perform .uuid trivial fun _ h => h.elim) fun uuid => ?_
  refine .bind (aside_perform (.run (.dump _ _ _)) trivial (hbelow uuid)) fun success => .bind ?_
    fun _ => .bind (aside_runFiles (.changeMode _) fun _ h => h.elim) fun _ => trivial
  cases success with
  | true => trivial
  | false => exact .bind (aside_runFiles (.unlink _) (hbelow uuid)) fun _ => trivial

theorem aside_databaseRestore {area : Path → Prop} (backup : Path) :
    (databaseRestore backup).Only (Effect.IsAside area) := by
  refine .bind (aside_perform (.pathExists backup) trivial fun _ h => h.elim) fun found =>
    .bind (Program.only_require _ _) fun _ => .bind aside_databaseIdentity fun names => ?_
  refine .bind (aside_runCommand .composeStop trivial fun _ h => h) fun _ => ?_
  refine .bind (aside_runCommand (.dropDatabase _ _) trivial fun _ h => h) fun _ => ?_
  refine .bind (aside_runCommand (.createDatabase _ _) trivial fun _ h => h) fun _ => ?_
  exact .bind (aside_perform (.run (.restore _ _ _)) trivial fun _ h => h.elim) fun _ =>
    Program.only_require _ _

/-- A backup is put back over what has been installed. -/
theorem behaves_restoreBackup {image uuid : Text} {bundle : Files D} :
    Behaves environment (Allowed environment host version)
      (BackedUp environment host version image bundle (runtimeBackupsDir ++ [uuid]))
      (restoreRuntime (runtimeBackupsDir ++ [uuid]))
      (fun _ => BackedUp environment host version image bundle (runtimeBackupsDir ++ [uuid]))
      fun _ => BackedUp environment host version image bundle (runtimeBackupsDir ++ [uuid]) := by
  have hbackup : ∀ host', BackedUp environment host version image bundle
      (runtimeBackupsDir ++ [uuid]) host' → IsBackup (fun place => place.content host.files)
        (host'.files.subtree (runtimeBackupsDir ++ [uuid])) :=
    fun host' h => h.held _ List.mem_cons_self
  refine behaves_restoreRuntime
    (fun place => stable_known persistent_staged fun item hitem path hpath => ?_)
    hbackup rfl (fun host' _ => ?_)
    (fun place => permits_allowed fun host' _ => .inr rfl) fun place host' _ => ?_
  · rw [List.mem_singleton.1 hitem]
    exact not_below_of_state rfl hpath
  · exact Effect.IsHarmless.allowed ⟨trivial, fun _ h => h.elim⟩
  · exact ⟨Effect.IsRemoval.allowed trivial, Effect.IsRemoval.allowed trivial⟩

/-- The staged bundle is installed over a backup. -/
theorem behaves_deployRuntime {image uuid : Text} {bundle : Files D} :
    Behaves environment (Allowed environment host version)
      (Staged environment host version image (stagingPath uuid) bundle)
      (deployRuntime (stagingPath uuid))
      (fun backup host' => ∃ uuid', backup = runtimeBackupsDir ++ [uuid'] ∧
        BackedUp environment host version image bundle backup host')
      fun _ _ => True := by
  refine .bind ((behaves_plain (aside_perform .uuid trivial fun _ h => h)
    persistent_staged).mono (fun _ h => h) (fun _ _ h => h) fun _ _ _ => trivial) fun uuid' => ?_
  have hbackup : (runtimeBackupsDir ++ [uuid']).head? = some stateRoot := rfl
  obtain ⟨hapart, hapart'⟩ := stagingPath_apart uuid [uuid']
    (show "runtime-backups".toList.take 16 ≠ "runtime-staging-".toList by decide)
  have hplaces : ∀ {root : Path}, root.head? = some stateRoot → ∀ path, BackupArea root path →
      ∀ place : Place, ¬ FileTree.Below place.path path := by
    intro root hroot path hpath
    refine not_below_of_stateArea ?_
    rcases hpath with hpath | hpath
    · exact head?_of_above hroot hpath
    · exact .inr ((head?_of_below hpath (by rintro rfl; cases hroot)).trans hroot)
  have hcontent : ∀ (place : Place) host', Staged environment host version image (stagingPath uuid)
      bundle host' → place.content host'.files = place.content host.files := fun place host' h =>
    h.held _ (List.mem_cons_of_mem _ (mem_heldPlaces.2 ⟨place, rfl⟩))
  refine .bind ((behaves_backupRuntime
    (stable_known persistent_staged fun item hitem path hpath => ?_) hcontent
    fun effect host' heffect _ => ?_).mono (fun _ h => h) (fun _ _ h => h) fun _ _ _ => trivial)
    fun _ => ?_
  · rcases List.mem_cons.1 hitem with rfl | hitem
    · exact not_below_of_backupArea hapart' hapart hpath
    · exact untouched_heldPlaces (hplaces hbackup) item hitem path hpath
  · exact (heffect.isHarmless (hplaces hbackup)).allowed
  have hinstall : Behaves environment (Allowed environment host version)
      (fun host' => BackedUp environment host version image bundle (runtimeBackupsDir ++ [uuid'])
        host' ∧ host'.files.subtree (stagingPath uuid) = bundle)
      (installRuntime (stagingPath uuid))
      (fun _ => BackedUp environment host version image bundle (runtimeBackupsDir ++ [uuid']))
      fun _ => BackedUp environment host version image bundle (runtimeBackupsDir ++ [uuid']) := by
    refine behaves_installRuntime (head?_stagingPath uuid) (stable_known persistent_staged
      fun item hitem path hpath => ?_) (fun effect host' heffect _ =>
        (heffect.isHarmless (hplaces (head?_stagingPath uuid))).allowed)
      fun place => permits_allowed fun host' h => .inl ⟨bundle, h.facts.2, rfl⟩
    rw [List.mem_singleton.1 hitem]
    rcases hpath with ⟨place, hpath⟩ | hpath
    · exact not_below_of_state hbackup hpath
    · exact not_below_of_backupArea hapart hapart' hpath
  refine .bind (.tryCatch (hinstall.strengthen fun host' h => ⟨⟨h.1.facts, h.1.once, ?_⟩, ?_⟩)
    fun error => .bind (behaves_restoreBackup.mono (fun _ h => h) (fun _ _ h => h)
      fun _ _ _ => trivial) fun _ => .of_throw fun _ _ => trivial)
    fun _ => .of_pure fun host' h => ⟨uuid', rfl, h⟩
  · intro item hitem
    rw [List.mem_singleton.1 hitem]
    exact h.2
  · exact h.1.held _ List.mem_cons_self

/-- What the environment file named before the job is written back, and the backups are put back. -/
theorem behaves_undoUpgrade {image oldImage oldVersion uuid : Text} {bundle : Files D}
    (hold : (envValues host.env).get imageKey = some oldImage) (hversion : OneLine oldVersion)
    (backup : Path) :
    Behaves environment (Allowed environment host version)
      (BackedUp environment host version image bundle (runtimeBackupsDir ++ [uuid]))
      (undoUpgrade oldImage oldVersion (runtimeBackupsDir ++ [uuid]) backup)
      (fun _ _ => True) fun _ _ => True := by
  refine .tryCatch (E := fun _ _ => True) ?_ fun error => .of_pure fun _ _ => trivial
  refine .bind ((behaves_updateEnvFile (writable_imageVersion (oneLine_of_get hold) hversion) rfl
    (fun _ _ => .inl hold) persistent_staged).mono (fun _ h => h) (fun _ _ h => h)
    fun _ _ _ => trivial) fun _ => ?_
  refine .bind (behaves_restoreBackup.mono (fun _ h => h) (fun _ _ h => h) fun _ _ _ => trivial)
    fun _ => ?_
  exact (behaves_plain (.bind (aside_databaseRestore backup) fun _ =>
    aside_runCommand .composeUp trivial fun _ h => h) persistent_staged).mono (fun _ h => h)
    (fun _ _ _ => trivial) fun _ _ _ => trivial

/-- The upgrade after the bundle has been staged. -/
theorem behaves_upgradeWithBackups {image oldImage oldVersion uuid : Text} {bundle : Files D}
    (hpattern : versionPattern version = true)
    (hold : (envValues host.env).get imageKey = some oldImage) (hversion : OneLine oldVersion) :
    Behaves environment (Allowed environment host version)
      (Staged environment host version image (stagingPath uuid) bundle)
      (upgradeWithBackups (stagingPath uuid) image version oldImage oldVersion) (fun _ _ => True)
      fun _ _ => True := by
  have hbackups : backupsDir.head? = some stateRoot := rfl
  have hplaces : ∀ path, BackupArea backupsDir path → ∀ place : Place,
      ¬ FileTree.Below place.path path := by
    intro path hpath
    refine not_below_of_stateArea ?_
    rcases hpath with hpath | hpath
    · exact head?_of_above hbackups hpath
    · exact .inr ((head?_of_below hpath (List.cons_ne_nil _ _)).trans hbackups)
  obtain ⟨hapart, hapart'⟩ := stagingPath_apart uuid []
    (show "backups".toList.take 16 ≠ "runtime-staging-".toList by decide)
  refine .bind ((behaves_aside aside_databaseBackup hplaces persistent_staged
    fun item hitem path hpath => ?_).mono (fun _ h => h) (fun _ _ h => h) fun _ _ _ => trivial)
    fun backup => ?_
  · rcases List.mem_cons.1 hitem with rfl | hitem
    · exact not_below_of_backupArea hapart' hapart hpath
    · exact untouched_heldPlaces hplaces item hitem path hpath
  refine .bind behaves_deployRuntime fun runtimeBackup => .of_exists fun uuid' =>
    .of_const fun hruntime => ?_
  subst hruntime
  refine .bind (Q := fun _ _ => True) (.tryCatch (E := fun _ =>
    BackedUp environment host version image bundle (runtimeBackupsDir ++ [uuid'])) ?_ fun error =>
      .bind (behaves_undoUpgrade hold hversion backup) fun _ => .of_throw fun _ _ => trivial)
    fun _ => .of_pure fun _ _ => trivial
  refine .assume (fun _ h => h.facts.1.oneLine) fun himage => ?_
  refine .bind (behaves_updateEnvFile (writable_imageVersion himage
    (oneLine_canonicalVersion hpattern)) rfl (fun _ h => .inr h.1) persistent_staged) fun _ => ?_
  exact (behaves_plain (.bind (aside_runCommand .composeUp trivial fun _ h => h) fun _ =>
    .bind (aside_perform .healthy trivial fun _ h => h) fun _ => Program.only_require _ _)
    persistent_staged).mono (fun _ h => h) (fun _ _ _ => trivial) fun _ _ h => h

end Deployment

/-! ## The job -/

section Job

variable {environment : Environment D} {host : Host D}

/-- The pinned image is pulled. -/
theorem behaves_pull {version image : Text} :
    Behaves environment (Allowed environment host version)
      (Known (fun history => IsPinned environment host.history version history image)
        (heldPlaces host))
      (runCommand (.pull image))
      (fun _ => Known (fun history => IsPinned environment host.history version history image)
        (heldPlaces host)) fun _ _ => True := by
  have hwrites : ∀ path, (Effect.run (.pull image)).Writes path → False := fun _ => id
  refine .bind (Q := fun _ => Known
    (fun history => IsPinned environment host.history version history image) (heldPlaces host))
    (.of_perform (fun host' h => ⟨?_, nofun, nofun, fun place => .inl ?_⟩) fun host' h =>
      h.step persistent_isPinned untouched_nothing rfl hwrites) fun success =>
    .of_require (fun _ _ h => h) fun _ _ _ => trivial
  · rintro image' (huses | huses) <;> cases huses
    exact h.facts
  · exact content_step_of_not_writes host' fun path hpath => (hwrites path hpath).elim

/-- The steps of an upgrade are allowed. -/
theorem behaves_upgrade (honce : definitions imageKey host.env ≤ 1) (payload : Payload) :
    Behaves environment (Allowed environment host payload.version) (Begun host) (upgrade payload)
      (fun _ _ => True) fun _ _ => True := by
  have hdiscard : ∀ path, (discardTree path).Only fun effect =>
      effect.IsHarmless ∨ effect.IsRemoval := fun path => ⟨.inr trivial, fun _ => trivial⟩
  refine .bind (Q := fun _ host' => versionPattern payload.version = true ∧ Begun host host')
    (.of_require (fun hpattern _ h => ⟨hpattern, h⟩) fun _ _ _ => trivial)
    fun _ => .of_const fun hpattern => ?_
  refine .bind (Q := fun values host' => values = envValues host.env ∧ Begun host host') ?_
    fun values => .of_const fun hvalues => ?_
  · have hread : Effect.readEnv.IsAside fun _ => False := ⟨trivial, fun _ h => h⟩
    refine .bind (.of_perform (Q := fun text host' => text = host.env ∧ Begun host host')
      (fun _ _ => hread.allowed fun _ h => h.elim) fun host' h => ⟨h.env, h.step hread id⟩)
      fun text => .of_pure fun host' h => ⟨congrArg envValues h.1, h.2⟩
  subst hvalues
  refine .bind behaves_previousImage fun oldImage => .of_const fun hold => ?_
  have hversion : OneLine (envValue host.env "WOLT_VERSION".toList "unknown".toList) :=
    oneLine_envValue (oneLine_of_all (by decide))
  refine .bind (behaves_verifiedImage honce) fun image => .bind behaves_pull fun _ => ?_
  refine .bind behaves_extractRuntime fun staging => .of_exists fun uuid => .of_exists fun bundle =>
    .of_const fun hstaging => ?_
  subst hstaging
  refine .bind (behaves_finally (behaves_upgradeWithBackups hpattern hold hversion) (hdiscard _)
    fun _ => behaves_free (hdiscard _)) fun backups => behaves_free ?_
  refine .bind ⟨.inl ⟨trivial, fun _ h => h.elim⟩, fun _ => trivial⟩ fun state => ?_
  refine .bind ?_ fun _ => .bind ?_ fun _ => ?_
  · cases state.rollback.bind RollbackRecord.databaseBackup with
    | none => trivial
    | some path => exact .bind ⟨.inr trivial, fun _ => trivial⟩ fun _ => Program.only_require _ _
  · cases state.rollback.bind RollbackRecord.runtimeBackup with
    | none => trivial
    | some path => exact hdiscard path
  · exact ⟨.inl ⟨trivial, fun _ h => h.elim⟩, fun _ =>
      ⟨.inl ⟨trivial, fun _ h => h.elim⟩, fun _ => trivial⟩⟩

/-- So are those of the whole job. -/
theorem behaves_executeJob (honce : definitions imageKey host.env ≤ 1) (jobId : Text)
    (payload : Payload) :
    Behaves environment (Allowed environment host payload.version) (Begun host)
      (executeJob jobId .upgrade payload) (fun _ _ => True) fun _ _ => True := by
  have hsave : ∀ job : Job, (saveJob job).Only fun effect =>
      effect.IsHarmless ∨ effect.IsRemoval := fun job =>
    ⟨.inl ⟨trivial, fun _ h => h.elim⟩, fun _ => ⟨.inl ⟨trivial, fun _ h => h.elim⟩, fun _ =>
      ⟨.inl ⟨trivial, fun _ h => h.elim⟩, fun _ => trivial⟩⟩⟩
  refine .tryCatch (E := fun _ _ => True) (.bind (Q := fun _ _ => True) (.bind
    (behaves_upgrade honce payload) fun _ => .of_pure fun _ _ => trivial) fun restart =>
      .bind (behaves_free (hsave _)) fun _ => ?_) fun error => behaves_free (hsave _)
  cases restart with
  | false => exact .of_pure fun _ _ => trivial
  | true =>
      refine behaves_free (.bind ⟨.inl ⟨trivial, fun _ h => h.elim⟩, fun _ => trivial⟩
        fun available =>
        .bind ⟨.inl ⟨trivial, fun _ h => h.elim⟩, fun _ => trivial⟩ fun installer => ?_)
      split
      · exact ⟨.inl ⟨trivial, fun _ h => h.elim⟩, fun _ => trivial⟩
      · trivial

/-- The image is one of the two at every moment, if it is whenever the file is written. -/
theorem namesImage_step {version : Text} {effect : Effect} {host' : Host D}
    (h : Allowed environment host version effect host')
    (hnames : NamesImage environment host version host'.history host'.env) :
    NamesImage environment host version (environment.step effect host').2.history
      (environment.step effect host').2.env := by
  have happend : ∀ {env : Text}, NamesImage environment host version host'.history env →
      NamesImage environment host version (environment.step effect host').2.history env := by
    rintro env (hbefore | ⟨image, hpinned, hread⟩)
    · exact .inl hbefore
    · exact .inr ⟨image, hpinned.append _, hread⟩
  by_cases heffect : ∃ text, effect = .writeEnv text
  · obtain ⟨text, rfl⟩ := heffect
    exact happend (h.names text rfl)
  · have hchanges : effect.changes .env = false := by
      cases effect with
      | writeEnv text => exact absurd ⟨text, rfl⟩ heffect
      | run command => cases command <;> rfl
      | _ => rfl
    rw [env_step environment host' hchanges]
    exact happend hnames

/-- **An upgrade keeps to one image.** Whatever `cosign` prints and the other commands do and
return, every step of the job heeds the image that is pinned by the digest in that output, and so
does the environment file at the end. -/
theorem heeds_executeJob (environment : Environment D) (conversions : Conversions)
    (printed : History → Option Value) (host : Host D)
    (honce : definitions imageKey host.env ≤ 1) (jobId : Text) (payload : Payload) :
    let job := executeJob jobId .upgrade payload
    let outside := environment.printing conversions printed
    (∀ entry ∈ job.trace outside.step host,
      Heeds outside host payload.version entry.1 entry.2) ∧
      NamesImage outside host payload.version (job.run outside.step host).2.history
        (job.run outside.step host).2.env := by
  intro job outside
  have hallowed : ∀ entry ∈ job.trace outside.step host,
      Allowed outside host payload.version entry.1 entry.2 :=
    (behaves_executeJob honce jobId payload host
      ⟨⟨[], by simp, fun _ h => by cases h⟩, rfl, rfl⟩).1
  obtain ⟨hnames, hend⟩ := Program.invariant_of_trace (P := fun host' =>
    NamesImage outside host payload.version host'.history host'.env) job
    (fun entry hentry => namesImage_step (hallowed entry hentry)) (.inl rfl)
  refine ⟨fun entry hentry => ?_, hend⟩
  have h := hallowed entry hentry
  exact ⟨h.image, h.container, hnames entry hentry, h.runtime⟩

end Job

/-! ## A release -/

/-- The digest of the release. -/
def releaseDigest : Text := "sha256:".toList ++ List.replicate 64 'a'

/-- What `cosign verify` prints of it. -/
def releaseSignature : Value :=
  .array [.object [("critical".toList, .object [("image".toList,
    .object [("docker-manifest-digest".toList, .string releaseDigest)])])]]

/-- The files in its image. -/
def releaseBundle : Files Unit := fun path =>
  if path = ["VERSION".toList] then some (.file (.text "v1.2.0\n".toList))
  else if path ∈ expectedFiles then some (.file (.text "new".toList))
  else if path ∈ [["scripts".toList], ["host_agent".toList]] then some .directory
  else none

/-- Only texts are printed here. -/
def releaseConversions : Conversions where
  print _ := []
  readInt _ := none
  readFloat _ := none
  round n := some n

/-- Everything succeeds, and the release can be pulled. -/
def releaseEnvironment : Environment Unit :=
  Environment.printing
    { sampleEnvironment with
      output := fun _ _ => "0123456789ab\n".toList
      bundle := fun _ => releaseBundle }
    releaseConversions fun _ => some releaseSignature

/-- An installation with its files. -/
def installedHost : Host Unit :=
  { sampleHost with
    files := fun path =>
      if path ∈ [composeFile, hostAgentComposeFile, versionFile, cosignBinary] then
        some (.file (.text "old".toList))
      else if path ∈ [projectDir, runtimeDir, agentInstallDir, agentInstallDir.dropLast,
        stateDir] then
        some .directory
      else none }

/-- The request for the release. -/
def releasePayload : Payload := { samplePayload 41000 41009 with version := "1.2.0".toList }

/-- An upgrade to the release names the image by its digest, and none other on the way. -/
theorem heeds_executeJob_release :
    definitions imageKey installedHost.env ≤ 1 ∧
      (∀ entry ∈ (executeJob [] .upgrade releasePayload).trace releaseEnvironment.step installedHost,
        Heeds releaseEnvironment installedHost "1.2.0".toList entry.1 entry.2) ∧
      (envValues ((executeJob [] .upgrade releasePayload).run releaseEnvironment.step
        installedHost).2.env).get imageKey = some (imageRepository ++ '@' :: releaseDigest) := by
  have honce : definitions imageKey installedHost.env ≤ 1 := by decide +kernel
  exact ⟨honce, (heeds_executeJob _ releaseConversions _ installedHost honce [] releasePayload).1,
    by decide +kernel⟩

end Wolt.HostAgent
