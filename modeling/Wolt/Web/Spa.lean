/-
# The files of the web interface

`spa` of `app/web/application.py`, which answers every `GET` that no other route takes: with a file
of the static directory, or else with the page of the interface. The path comes from the client, the
directory may contain symbolic links, and `resolve` and `relative_to` of `pathlib` stand between the
two.
-/

import Wolt.Program.PathWalk
import Wolt.Python.Text

namespace Wolt.Web

open Wolt.Python PathWalk

/-! ## Paths -/

/-- A component of a path, as `pathlib` reads it. -/
def component (text : Text) : Step Text :=
  if text = [] ∨ text = ['.'] then .here
  else if text = ['.', '.'] then .up
  else .down text

/-- `Path(text)`, which drops the components that stay where they are. -/
def route (text : Text) : Route Text :=
  ⟨text.head? = some '/', ((text.splitOn '/').map component).filter (· ≠ .here)⟩

/-- `base / path`: an absolute path replaces its base. -/
def joinpath (base path : Route Text) : Route Text :=
  if path.absolute then path else ⟨base.absolute, base.steps ++ path.steps⟩

/-- The process: its files, its directory, and how far it follows links. -/
structure Process (C : Type) where
  files : FileSystem Text C
  directory : List Text
  isDirectory : files.entry directory = .directory
  /-- How many links the system follows when it looks up a path. -/
  systemLinks : ℕ
  /-- How many calls of `_joinrealpath` can be under way inside of each other. -/
  depth : ℕ
  systemLinks_le : systemLinks ≤ depth

/-- What is raised and not caught. -/
inductive Raised
  /-- The links are nested too deeply for `realpath`. -/
  | recursionError
  /-- The system finds a loop of links at what `resolve` returns. -/
  | runtimeError
  /-- A name with a null character. -/
  | valueError
  /-- `is_file` was refused. -/
  | osError
  deriving DecidableEq

section Calls

variable {C : Type} (process : Process C)

/-- The location at which the system finds a path. -/
def found (path : Route Text) : Except LookupError (List Text) :=
  walk process.files process.systemLinks (path.start process.directory) path.steps

/-- What `os.path.realpath` makes of a path. -/
def realpath (path : Route Text) : Except ResolveError (Joined Text) :=
  realPath process.files process.directory process.depth path

/-- `path.resolve()`, which looks up what `realpath` returns to learn of a loop. -/
def resolved (path : Route Text) : Except Raised (List Text) :=
  match realpath process path with
  | .error .recursion => .error .recursionError
  | .error .invalidName => .error .valueError
  | .ok joined =>
      let location := joined.location process.directory
      if location.all process.files.valid then
        match found process (routeTo location) with
        | .error .loop => .error .runtimeError
        | .ok _ | .error .noEntry | .error .notDirectory | .error .refused => .ok location
      else .error .valueError

/-- A regular file. -/
def isRegular {N : Type} : Entry N C → Bool
  | .file _ => true
  | .absent | .refused | .directory | .link _ => false

/-- `path.is_file()`. -/
def isFile (path : Route Text) : Except Raised Bool :=
  match found process path with
  | .ok location => .ok (isRegular (process.files.entry location))
  | .error .refused => .error .osError
  | .error .noEntry | .error .notDirectory | .error .loop => .ok false

/-! ## The route -/

/-- What `spa` returns. -/
inductive SpaResponse
  /-- `{"detail": "Not found"}` with status 404. -/
  | notFound
  /-- `FileResponse(requested)`. -/
  | file (requested : List Text)
  /-- `FileResponse(index)`. -/
  | index
  /-- `{"detail": "Web assets are not installed"}` with status 503. -/
  | notInstalled
  deriving DecidableEq

/-- `path == "api" or path.startswith("api/")`. -/
def isApi (path : Text) : Bool := path = "api".toList || "api/".toList.isPrefixOf path

/-- `static_dir / "index.html"`. -/
def indexPath (staticDir : Route Text) :
    Route Text := joinpath staticDir (route "index.html".toList)

/-- The end of `spa`. -/
def indexResponse (staticDir : Route Text) : Except Raised SpaResponse := do
  if ← isFile process (indexPath staticDir) then .ok .index else .ok .notInstalled

/-- `spa`. -/
def spa (staticDir : Route Text) (path : Text) : Except Raised SpaResponse :=
  if isApi path then .ok .notFound
  else do
    let requested ← resolved process (joinpath staticDir (route path))
    match resolved process staticDir with
    | .error .valueError => .ok .notFound
    | .error raised => .error raised
    | .ok root =>
        if root.isPrefixOf requested then do
          let serves ← if path = [] then .ok false else isFile process (routeTo requested)
          if serves then .ok (.file requested) else indexResponse process staticDir
        else .ok .notFound

end Calls

/-! ## What is served -/

section Results

variable {C : Type} {process : Process C} {staticDir : Route Text} {path : Text}

theorem isClear_directory (process : Process C) : IsClear process.files process.directory :=
  isClear_of_isStored (by rw [process.isDirectory]; trivial) fun target => by
    rw [process.isDirectory]
    exact fun h => (by cases h)

/-- Where no loop is met, `resolve` has no objections. -/
theorem resolved_eq_ok {path : Route Text} {spot : Spot Text}
    (h : realpath process path = .ok (.resolved spot)) :
    resolved process path = .ok (spot.location process.directory) := by
  have hclear := isClear_of_realPath (isClear_directory process) h
  have hloop : found process (routeTo (spot.location process.directory)) ≠ .error .loop :=
    walk_routeTo_ne_loop hclear.isPhysical
  rw [resolved, h]
  dsimp only [Joined.location]
  rw [if_pos (List.all_eq_true.2 hclear.valid)]
  split
  · rename_i hfound
    exact absurd hfound hloop
  all_goals rfl

/-- What the system finds is resolved. -/
theorem resolved_of_found {path : Route Text} {location : List Text}
    (h : found process path = .ok location) : resolved process path = .ok location := by
  obtain ⟨spot, hspot, rfl⟩ := realPath_of_walk process.systemLinks_le h
  exact resolved_eq_ok hspot

/-- A regular file is what the system finds. -/
theorem isFile_iff {path : Route Text} :
    isFile process path = .ok true ↔ ∃ location content, found process path = .ok location ∧
      process.files.entry location = .file content := by
  refine ⟨fun h => ?_, fun ⟨location, content, hfound, hentry⟩ => ?_⟩
  · unfold isFile at h
    split at h
    · rename_i location hfound
      have hregular := Except.ok.inj h
      cases hentry : process.files.entry location with
      | file content => exact ⟨location, content, hfound, hentry⟩
      | _ =>
          rw [hentry] at hregular
          cases hregular
    all_goals cases h
  · simp only [isFile, hfound, hentry, isRegular]

theorem found_routeTo {location : List Text} {content : C}
    (hentry : process.files.entry location = .file content) :
    found process (routeTo location) = .ok location :=
  walk_routeTo _ (by rw [hentry]; trivial) fun target => by
    rw [hentry]
    exact fun h => (by cases h)

theorem indexResponse_ne_file {location : List Text} :
    indexResponse process staticDir ≠ .ok (.file location) := by
  unfold indexResponse
  cases isFile process (indexPath staticDir) with
  | error raised => exact fun h => (by cases h)
  | ok isThere => cases isThere <;> exact fun h => (by cases h)

/-! ### Requests of the API, outside and inside of the directory -/

theorem spa_api (hapi : isApi path = true) : spa process staticDir path = .ok .notFound :=
    if_pos hapi

theorem spa_outside {requested root : List Text} (hapi : isApi path = false)
    (hrequested : resolved process (joinpath staticDir (route path)) = .ok requested)
    (hroot : resolved process staticDir = .ok root) (hbelow : ¬root <+: requested) :
    spa process staticDir path = .ok .notFound := by
  have hnot : root.isPrefixOf requested = false :=
    Bool.eq_false_iff.2 fun h => hbelow (List.isPrefixOf_iff_prefix.1 h)
  rw [spa, hapi, hrequested, hroot]
  dsimp only [bind, Except.bind]
  rw [hnot]
  rfl

/-- The path of the page itself. -/
theorem spa_nil_ne_file {location : List Text} :
    spa process staticDir [] ≠ .ok (.file location) := by
  unfold spa
  rw [if_neg (by decide)]
  dsimp only [bind, Except.bind]
  cases resolved process (joinpath staticDir (route [])) with
  | error raised => exact fun h => (by cases h)
  | ok requested =>
      cases resolved process staticDir with
      | error raised => cases raised <;> exact fun h => (by cases h)
      | ok root =>
          dsimp only
          cases root.isPrefixOf requested with
          | false => exact fun h => (by cases h)
          | true => exact indexResponse_ne_file

/-- When resolving fails, no file is served. -/
theorem exists_resolved {location : List Text} (hapi : isApi path = false)
    (h : spa process staticDir path = .ok (.file location)) :
    (∃ requested, resolved process (joinpath staticDir (route path)) = .ok requested) ∧
      ∃ root, resolved process staticDir = .ok root := by
  rw [spa, hapi] at h
  dsimp only [bind, Except.bind] at h
  cases hrequested : resolved process (joinpath staticDir (route path)) with
  | error raised =>
      rw [hrequested] at h
      cases h
  | ok requested =>
      rw [hrequested] at h
      cases hroot : resolved process staticDir with
      | error raised =>
          rw [hroot] at h
          cases raised <;> cases h
      | ok root => exact ⟨⟨requested, rfl⟩, root, rfl⟩

theorem spa_inside {requested root : List Text} (hapi : isApi path = false) (hpath : path ≠ [])
    (hrequested : resolved process (joinpath staticDir (route path)) = .ok requested)
    (hroot : resolved process staticDir = .ok root) (hbelow : root <+: requested) :
    spa process staticDir path = (isFile process (routeTo requested)).bind fun serves =>
      if serves then .ok (.file requested) else indexResponse process staticDir := by
  rw [spa, hapi, hrequested, hroot]
  dsimp only [bind, Except.bind]
  rw [List.isPrefixOf_iff_prefix.2 hbelow, if_neg hpath]
  rfl

/-- Who is served a file has asked for it, below the directory. -/
theorem spa_eq_file {requested : List Text}
    (h : spa process staticDir path = .ok (.file requested)) :
    isApi path = false ∧ path ≠ [] ∧
      resolved process (joinpath staticDir (route path)) = .ok requested ∧
      (∃ root, resolved process staticDir = .ok root ∧ root <+: requested) ∧
      isFile process (routeTo requested) = .ok true := by
  have hapi : isApi path = false := Bool.eq_false_iff.2 fun hapi => by
    rw [spa_api hapi] at h
    cases h
  have hpath : path ≠ [] := by
    rintro rfl
    exact spa_nil_ne_file h
  obtain ⟨⟨location, hlocation⟩, root, hroot⟩ := exists_resolved hapi h
  have hbelow : root <+: location := by
    by_contra hbelow
    rw [spa_outside hapi hlocation hroot hbelow] at h
    cases h
  rw [spa_inside hapi hpath hlocation hroot hbelow] at h
  cases hfile : isFile process (routeTo location) with
  | error raised =>
      rw [hfile] at h
      cases h
  | ok serves =>
      rw [hfile] at h
      cases serves with
      | false => exact absurd h indexResponse_ne_file
      | true =>
          obtain rfl : location = requested := by
            cases h
            rfl
          exact ⟨hapi, hpath, hlocation, ⟨root, hroot, hbelow⟩, hfile⟩

/-- A file is served exactly when the path is resolved to one below the resolved directory at which
the system finds a regular file. -/
theorem spa_eq_file_iff {requested : List Text} :
    spa process staticDir path = .ok (.file requested) ↔
      isApi path = false ∧ path ≠ [] ∧
      resolved process (joinpath staticDir (route path)) = .ok requested ∧
      (∃ root, resolved process staticDir = .ok root ∧ root <+: requested) ∧
      ∃ location content, found process (routeTo requested) = .ok location ∧
        process.files.entry location = .file content := by
  rw [← isFile_iff]
  refine ⟨spa_eq_file, ?_⟩
  rintro ⟨hapi, hpath, hrequested, ⟨root, hroot, hbelow⟩, hfile⟩
  rw [spa_inside hapi hpath hrequested hroot hbelow, hfile]
  rfl

/-- Where no loop of links is met, what is served is a file below the directory, behind no link. -/
theorem physical_of_spa {requested : List Text} {spot : Spot Text}
    (hspot : realpath process (joinpath staticDir (route path)) = .ok (.resolved spot))
    (h : spa process staticDir path = .ok (.file requested)) :
    IsPhysical process.files requested ∧ ∃ content, process.files.entry requested = .file content := by
  obtain ⟨-, -, hrequested, -, location, content, hfound, hentry⟩ := spa_eq_file_iff.1 h
  obtain rfl := Except.ok.inj ((resolved_eq_ok hspot).symm.trans hrequested)
  have hphysical := (isClear_of_realPath (isClear_directory process) hspot).isPhysical
  obtain rfl := eq_of_walk_routeTo hphysical hfound
  exact ⟨hphysical, content, hentry⟩

/-- What the system finds below the directory is served. -/
theorem spa_of_found {location root : List Text} {content : C} (hapi : isApi path = false)
    (hpath : path ≠ [])
    (hfound : found process (joinpath staticDir (route path)) = .ok location)
    (hroot : found process staticDir = .ok root) (hbelow : root <+: location)
    (hentry : process.files.entry location = .file content) :
    spa process staticDir path = .ok (.file location) :=
  spa_eq_file_iff.2 ⟨hapi, hpath, resolved_of_found hfound, ⟨root, resolved_of_found hroot, hbelow⟩,
    location, content, found_routeTo hentry, hentry⟩

/-! ### The path of a file -/

/-- A name that stands for itself in a path. -/
def IsPlain (name : Text) : Prop := component name = .down name ∧ '/' ∉ name

instance (name : Text) : Decidable (IsPlain name) := inferInstanceAs (Decidable (_ ∧ _))

theorem splitOn_join {names : List Text} (hnames : ∀ name ∈ names, IsPlain name)
    (hne : names ≠ []) : (join '/' names).splitOn '/' = names :=
  List.splitOn_intercalate '/' (fun name hname => (hnames name hname).2) hne

theorem ne_nil_of_isPlain {name : Text} (h : IsPlain name) : name ≠ [] := by
  rintro rfl
  exact absurd h.1 (by decide)

theorem nil_notMem {names : List Text} (hnames : ∀ name ∈ names, IsPlain name) : [] ∉ names :=
  fun hmem => ne_nil_of_isPlain (hnames [] hmem) rfl

/-- The path of plain names leads down by these names. -/
theorem route_join {names : List Text} (hnames : ∀ name ∈ names, IsPlain name)
    (hne : names ≠ []) : route (join '/' names) = ⟨false, names.map .down⟩ := by
  have hhead : (join '/' names).head? ≠ some '/' := by
    intro hslash
    obtain ⟨rest, hrest⟩ := List.head?_eq_some_iff.1 hslash
    have hsplit := splitOn_join hnames hne
    rw [hrest, ← List.nil_append ('/' :: rest), List.splitOn_append_cons_self, List.splitOn_nil]
      at hsplit
    exact nil_notMem hnames (by rw [← hsplit]; exact List.mem_cons_self)
  have hsteps : names.map component = names.map .down :=
    List.map_congr_left fun name hname => (hnames name hname).1
  rw [route, splitOn_join hnames hne, hsteps, List.filter_eq_self.2 (by simp)]
  simp [hhead]

theorem head_of_isApi (hapi : isApi path = true) :
    (path.splitOn '/').head? = some "api".toList := by
  rw [isApi, Bool.or_eq_true, decide_eq_true_iff, List.isPrefixOf_iff_prefix] at hapi
  obtain rfl | ⟨rest, rfl⟩ := hapi
  · decide
  · rw [show "api/".toList = "api".toList ++ ['/'] from by decide, List.append_assoc,
      List.singleton_append, List.splitOn_append_cons_self_of_not_mem (by decide)]
    rfl

/-- Each regular file below the directory has a path, unless it looks like one of the API. -/
theorem spa_join {root names : List Text} {content : C}
    (hroot : found process staticDir = .ok root) (hnames : ∀ name ∈ names, IsPlain name)
    (hne : names ≠ []) (hhead : names.head? ≠ some "api".toList)
    (hentry : process.files.entry (root ++ names) = .file content) :
    spa process staticDir (join '/' names) = .ok (.file (root ++ names)) := by
  have hapi : isApi (join '/' names) = false := Bool.eq_false_iff.2 fun hapi => by
    have := head_of_isApi hapi
    rw [splitOn_join hnames hne] at this
    exact hhead this
  have hpath : join '/' names ≠ [] := by
    intro hpath
    have hsplit := splitOn_join hnames hne
    rw [hpath, List.splitOn_nil] at hsplit
    exact nil_notMem hnames (by rw [← hsplit]; exact List.mem_cons_self)
  have hfound : found process (joinpath staticDir (route (join '/' names))) = .ok
    (root ++ names) := by
    rw [route_join hnames hne]
    exact walk_append hroot (by rw [hentry]; trivial) fun target => by
      rw [hentry]
      exact fun h => (by cases h)
  exact spa_of_found hapi hpath hfound hroot (List.prefix_append root names) hentry

/-- **The web interface serves the files of its directory.** A file is served exactly when `resolve`
makes a path below the directory of what was asked for, and the system finds a regular file there.
Where no loop of links is met on the way, this file stands at that path, behind no link: only after
a loop is the rest of a path taken by name, with the links in it left for the system. A path that
leads outside of the directory is not found. Each regular file below the directory that the system
finds is served, and each has a path, unless its first name is that of the API. -/
theorem spa_serves_the_static_directory (process : Process C) (staticDir : Route Text) :
    (∀ path requested, spa process staticDir path = .ok (.file requested) ↔
      isApi path = false ∧ path ≠ [] ∧
      resolved process (joinpath staticDir (route path)) = .ok requested ∧
      (∃ root, resolved process staticDir = .ok root ∧ root <+: requested) ∧
      ∃ location content, found process (routeTo requested) = .ok location ∧
        process.files.entry location = .file content) ∧
    (∀ path requested spot,
      realpath process (joinpath staticDir (route path)) = .ok (.resolved spot) →
      spa process staticDir path = .ok (.file requested) →
      IsPhysical process.files requested ∧
        ∃ content, process.files.entry requested = .file content) ∧
    (∀ path requested root, isApi path = false →
      resolved process (joinpath staticDir (route path)) = .ok requested →
      resolved process staticDir = .ok root → ¬root <+: requested →
      spa process staticDir path = .ok .notFound) ∧
    (∀ path location root content, isApi path = false → path ≠ [] →
      found process (joinpath staticDir (route path)) = .ok location →
      found process staticDir = .ok root → root <+: location →
      process.files.entry location = .file content →
      spa process staticDir path = .ok (.file location)) ∧
    ∀ root names content, found process staticDir = .ok root → (∀ name ∈ names, IsPlain name) →
      names ≠ [] → names.head? ≠ some "api".toList →
      process.files.entry (root ++ names) = .file content →
      spa process staticDir (join '/' names) = .ok (.file (root ++ names)) :=
  ⟨fun _ _ => spa_eq_file_iff, fun _ _ _ => physical_of_spa, fun _ _ _ => spa_outside,
    fun _ _ _ _ => spa_of_found, fun _ _ _ => spa_join⟩

end Results

/-! ### A directory with a link to the outside, and one to itself -/

section Sample

/-- A location, by its path. -/
def located (text : String) : List Text := text.toList.splitOn '/'

/-- `static` is a link to `www`, in which there is a link to the outside and one to itself. -/
def sampleEntries : List (List Text × Entry Text Unit) :=
  [(located "etc", .directory),
    (located "etc/key", .file ()),
    (located "srv", .directory),
    (located "srv/static", .link (route "www".toList)),
    (located "srv/www", .directory),
    (located "srv/www/app.js", .file ()),
    (located "srv/www/out", .link (route "../../etc".toList)),
    (located "srv/www/loop", .link (route "loop".toList))]

def sampleProcess : Process Unit where
  files := FileSystem.ofEntries
    (show IsListing sampleEntries fun name => !name.contains '\x00' by decide)
  directory := located "srv"
  isDirectory := by decide
  systemLinks := 40
  depth := 40
  systemLinks_le := le_rfl

/-- A link that leads outside is followed before the directory is looked at, but not after a loop:
there the rest of the path stays below the directory by name, and the system follows the link. -/
theorem sample_serves_the_static_directory :
    spa sampleProcess (route "static".toList) "app.js".toList =
        .ok (.file (located "srv/www/app.js")) ∧
      spa sampleProcess (route "static".toList) "out/key".toList = .ok .notFound ∧
      spa sampleProcess (route "static".toList) "/etc/key".toList = .ok .notFound ∧
      spa sampleProcess (route "static".toList) "loop/../app.js".toList =
        .ok (.file (located "srv/www/app.js")) ∧
      spa sampleProcess (route "static".toList) "loop/../out/key".toList =
        .ok (.file (located "srv/www/out/key")) := by
  obtain ⟨hserved, -, houtside, -, hinside⟩ :=
    spa_serves_the_static_directory sampleProcess (route "static".toList)
  have hroot : resolved sampleProcess (route "static".toList) = .ok (located "srv/www") := by
    decide +kernel
  exact ⟨hinside (located "srv/www") [ "app.js".toList] () (by decide) (by decide) (by decide)
      (by decide) (by decide),
    houtside _ (located "etc/key") _ (by decide) (by decide +kernel) hroot (by decide),
    houtside _ (located "etc/key") _ (by decide) (by decide +kernel) hroot (by decide),
    (hserved _ _).2 ⟨by decide, by decide, by decide +kernel, ⟨_, hroot, by decide⟩,
      located "srv/www/app.js", (), by decide +kernel, by decide⟩,
    (hserved _ _).2 ⟨by decide, by decide, by decide +kernel, ⟨_, hroot, by decide⟩,
      located "etc/key", (), by decide +kernel, by decide⟩⟩

end Sample

end Wolt.Web
