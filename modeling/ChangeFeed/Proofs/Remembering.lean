/-
  ChangeFeed.Proofs.Remembering — what is remembered of a configuration.

  The configuration file is looked for until it has been found, and its path is
  kept from then on.  What is in it is read until there was anything in it, and
  is kept as well; only a client that is given another name changes that.  What
  is kept is used whatever becomes of the files and of the environment, and that
  is to say that no file is opened.

  An empty configuration, though one like any other, is taken for none: whoever
  asks for it again has the file read again.

  Main results:
    * `Use.found_after`, `Use.cached_after` — what any uses of the program keep.
    * `Use.remembers` — what is remembered, and of what nothing is.
    * `empty_configuration_forgotten` — a configuration that is read twice.
-/

import Mathlib
import ChangeFeed.Script.Program

namespace ChangeFeed

/-! ## §1. What is found and read. -/

namespace Config.Store

variable {s : Store} {path : String}

/-- A path that is known stays so when the file is read. -/
theorem found_readDefault (h : s.found = some path) : s.readDefault.2.found = some path := by
  rcases readDefault_cases s with ⟨t, -, -, hread⟩ | ⟨-, hread⟩
  · rw [hread]
    exact h
  · rw [hread, readAfresh, locate_of_found h]
    simp only
    cases s.load path <;> exact h

/-- **Once an empty configuration has been read, the file is read again**, at the
    path that was found, and whatever is in it by then. -/
theorem read_of_empty (h : (s.read none).1 = .ok []) :
    ∃ path, (s.read none).2.found = some path ∧ ∀ files named,
      (Store.read { (s.read none).2 with files := files, named := named } none).1 =
        Store.load { (s.read none).2 with files := files, named := named } path := by
  change s.readDefault.1 = .ok [] at h
  show ∃ path, s.readDefault.2.found = some path ∧ ∀ files named,
    (Store.readDefault { s.readDefault.2 with files := files, named := named }).1 =
      Store.load { s.readDefault.2 with files := files, named := named } path
  have hcached := cached_readDefault h
  obtain ⟨path, hfound⟩ : ∃ path, s.readDefault.2.found = some path := by
    rcases readDefault_cases s with ⟨t, -, ht, hread⟩ | ⟨-, hread⟩
    · rw [hread] at h
      exact absurd (Except.ok.inj h) ht
    · rw [hread] at h ⊢
      obtain ⟨path, hfound, -⟩ := readAfresh_ok h
      exact ⟨path, hfound⟩
  refine ⟨path, hfound, fun files named => ?_⟩
  generalize hlater : ({ s.readDefault.2 with files := files, named := named } : Store) = later
  have hempty : later.cached = some [] := by rw [← hlater]; exact hcached
  have hknown : later.found = some path := by rw [← hlater]; exact hfound
  rw [readDefault_of_empty hempty, readAfresh, locate_of_found hknown]
  simp only
  cases later.load path <;> rfl

end Config.Store

/-! ## §2. Uses of the program. -/

namespace Script.Use

variable {s : Config.Store} {path : String} {t : Table}

/-- Is a client given another name, and with it the remembered configuration? -/
def renames : Use → Bool
  | .serve _ none appId => appId.any fun name => !name.isEmpty
  | .main words _ =>
    match CommandLine.parse words with
    | .run _ .absent group => (Program.appIdOf group).any fun name => !name.isEmpty
    | _ => false
  | _ => false

/-- What a use of the program leaves of the store. -/
inductive Leaves (use : Use) (s : Config.Store) : Config.Store → Prop where
  | untouched : Leaves use s s
  | files (files : Config.Files) : Leaves use s { s with files := files }
  | named (path : Option String) : Leaves use s { s with named := path }
  | located : Leaves use s s.locate.2
  | read : Leaves use s s.readDefault.2
  /-- A client is made, perhaps with another name. -/
  | configured (origin : Program.Origin) (appId : Option String)
      (hname : origin = .default → (appId.any fun name => !name.isEmpty) = use.renames) :
      Leaves use s (Program.configure s origin appId).2

theorem leaves_changeFiles (use : Use) (s : Config.Store)
    (change : Except FileFault Unit × Config.Files) :
    Leaves use s (changeFiles s change).2.2 := .files change.2

theorem leaves_inSession (use : Use) (threshold : Log.Level) (s : Config.Store)
    (act : Action roles Unit) : Leaves use s (inSession threshold s act).2.2 := .untouched

theorem leaves_perform (threshold : Log.Level) (s : Config.Store) (use : Use) :
    Leaves use s (use.perform threshold s).2.2 := by
  cases use with
  | writeFile path content => exact leaves_changeFiles _ s _
  | removeFile path => exact leaves_changeFiles _ s _
  | makeDirectory path => exact leaves_changeFiles _ s _
  | enterDirectory path => exact leaves_changeFiles _ s _
  | nameConfig path =>
    simp only [perform, Config.Store.name]
    by_cases hpath : path.any (·.contains '\x00') = true
    · rw [if_pos hpath]
      exact .untouched
    · rw [if_neg hpath]
      exact .named path
  | locateConfig => exact .located
  | readConfig path =>
    cases path with
    | some path => exact .untouched
    | none => exact .read
  | configureLogging config => exact leaves_inSession _ threshold s _
  | client script config runs => exact leaves_inSession _ threshold s _
  | serve script given appId =>
    cases given with
    | some config => exact .configured (.given config) appId fun h => by cases h
    | none => exact .configured .default appId fun _ => rfl
  | main words turns =>
    show Leaves _ s (Program.main _ s words turns).2
    unfold Program.main
    cases hparse : CommandLine.parse words with
    | help => exact .untouched
    | refused message => exact .untouched
    | run topics config group =>
      refine .configured (Program.originOf config) (Program.appIdOf group) fun hdefault => ?_
      cases config with
      | absent =>
        simp only [renames, hparse]
      | _ => cases hdefault

/-! What clients leave of the path and of the configuration. -/

theorem found_configure (h : s.found = some path) (origin : Program.Origin)
    (appId : Option String) : (Program.configure s origin appId).2.found = some path := by
  cases origin with
  | given config => exact h
  | file path => exact h
  | nowhere => exact h
  | default =>
    have hread := Config.Store.found_readDefault h
    simp only [Program.configure]
    rcases hdefault : s.readDefault with ⟨result, s'⟩
    rw [hdefault] at hread
    cases result with
    | error f => exact hread
    | ok t =>
      simp only
      cases Config.Store.renamed (.table t) appId with
      | error f => exact hread
      | ok config => cases config <;> exact hread

/-- A remembered configuration whose client keeps its name stays as it is. -/
theorem cached_configure (h : s.cached = some t) (ne : t ≠ []) {origin : Program.Origin}
    {appId : Option String}
    (hunnamed : origin = .default → (appId.any fun name => !name.isEmpty) = false) :
    (Program.configure s origin appId).2.cached = some t := by
  cases origin with
  | given config => exact h
  | file path => exact h
  | nowhere => exact h
  | default =>
    have hsame : Config.Store.renamed (.table t) appId = .ok (.table t) := by
      unfold Config.Store.renamed
      cases appId with
      | none => rfl
      | some name =>
        have hempty : name.isEmpty = true := by simpa using hunnamed rfl
        simp only [hempty, if_true]
    simp only [Program.configure]
    rw [Config.Store.readDefault_of_cached h ne]
    simp only
    rw [hsame]
    rfl

/-- **A path that is known stays so**, whatever the program is used for. -/
theorem Leaves.found {use : Use} {s' : Config.Store} (hleaves : Leaves use s s')
    (h : s.found = some path) : s'.found = some path := by
  cases hleaves with
  | untouched => exact h
  | files files => exact h
  | named named => exact h
  | located =>
    rw [Config.Store.locate_of_found h]
    exact h
  | read => exact Config.Store.found_readDefault h
  | configured origin appId hname => exact found_configure h origin appId

/-- **A remembered configuration stays as it is**, if it is not empty and no client
    is given another name. -/
theorem Leaves.cached {use : Use} {s' : Config.Store} (hleaves : Leaves use s s')
    (h : s.cached = some t) (ne : t ≠ []) (hkeeps : use.renames = false) :
    s'.cached = some t := by
  cases hleaves with
  | untouched => exact h
  | files files => exact h
  | named named => exact h
  | located => rw [Config.Store.cached_locate, h]
  | read =>
    rw [Config.Store.readDefault_of_cached h ne]
    exact h
  | configured origin appId hname =>
    exact cached_configure h ne fun hdefault => (hname hdefault).trans hkeeps

/-! ## §3. Runs. -/

/-- The store after several uses. -/
def after (threshold : Log.Level) (s : Config.Store) (uses : List Use) : Config.Store :=
  uses.foldl (fun s use => (use.perform threshold s).2.2) s

theorem found_after (threshold : Log.Level) (uses : List Use) (h : s.found = some path) :
    (after threshold s uses).found = some path := by
  induction uses generalizing s with
  | nil => exact h
  | cons use rest ih => exact ih ((leaves_perform threshold s use).found h)

theorem cached_after (threshold : Log.Level) {uses : List Use} (h : s.cached = some t)
    (ne : t ≠ []) (hnames : ∀ use ∈ uses, use.renames = false) :
    (after threshold s uses).cached = some t := by
  induction uses generalizing s with
  | nil => exact h
  | cons use rest ih =>
    obtain ⟨hname, hrest⟩ := List.forall_mem_cons.1 hnames
    exact ih ((leaves_perform threshold s use).cached h ne hname) hrest

/-- What is remembered from a moment on, whatever the program is used for
    afterwards. -/
structure Remembers (threshold : Log.Level) (s : Config.Store) (uses : List Use) : Prop where
  /-- A configuration that was read, and that is not empty, is the same whenever it
      is read again.  Neither files nor the environment matter for that, and the
      store stays as it is. -/
  config : ∀ t, (s.read none).1 = .ok t → t ≠ [] → (∀ use ∈ uses, use.renames = false) →
    ∀ files named,
      Config.Store.read
          { after threshold (s.read none).2 uses with files := files, named := named } none =
        (.ok t, { after threshold (s.read none).2 uses with files := files, named := named })
  /-- The same is true of the path, once the file was found. -/
  path : ∀ path, s.locate.1 = .ok path → ∀ files named,
    Config.Store.locate { after threshold s.locate.2 uses with files := files, named := named } =
      (.ok path, { after threshold s.locate.2 uses with files := files, named := named })
  /-- Nothing is remembered of a file that is read by its path. -/
  byPath : ∀ path, (s.read (some path)).2 = s
  /-- An empty configuration is not remembered: the file is read again, at the path
      that was found. -/
  empty : (s.read none).1 = .ok [] → ∃ path, (s.read none).2.found = some path ∧
    ∀ files named,
      (Config.Store.read { (s.read none).2 with files := files, named := named } none).1 =
        Config.Store.load { (s.read none).2 with files := files, named := named } path

/-- **The configuration is read once, and its file is found once**, unless there is
    nothing in it. -/
theorem remembers (threshold : Log.Level) (s : Config.Store) (uses : List Use) :
    Remembers threshold s uses := by
  refine ⟨fun t hread ne hnames files named => ?_, fun path hlocate files named => ?_,
    s.read_file_config, Config.Store.read_of_empty⟩
  · have hkept := cached_after threshold (Config.Store.cached_readDefault hread) ne hnames
    exact Config.Store.read_of_cached hkept ne
  · have hfound : s.locate.2.found = some path :=
      Config.Store.found_of_locate (Prod.ext hlocate rfl)
    have hkept := found_after threshold uses hfound
    exact Config.Store.locate_of_found hkept

end Script.Use

/-! ## §4. Two configuration files that are removed. -/

namespace Sample

/-- The environment names a file with this content. -/
def storeWith (content : Octets) : Config.Store :=
  .start { Config.Files.bare with files := [(["c"], content)] } (some "c")

/-- A configuration that says what the client is called. -/
def fileContent : Octets := Octets.encode "[client]\napp_id = \"file\"\n"

/-- What is in it. -/
def fileTable : Table := [("client", .table [("app_id", .text "file")])]

theorem read_storeWith : ((storeWith fileContent).read none).1 = .ok fileTable := by cbv

end Sample

open Script in
/-- A configuration that is read again after its file was removed and another one
    was named. -/
theorem remembers_of_sample :
    (Config.Store.read (Use.after 0 ((Sample.storeWith Sample.fileContent).read none).2
      [.removeFile "c", .nameConfig (some "d")]) none).1 = .ok Sample.fileTable := by
  have hkept := (Use.remembers 0 (Sample.storeWith Sample.fileContent)
    [.removeFile "c", .nameConfig (some "d")]).config Sample.fileTable Sample.read_storeWith
    (List.cons_ne_nil _ _) (by simp [Use.renames])
  exact congrArg Prod.fst (hkept _ _)

open Script in
/-- **An empty configuration is read again.**  It was read, and yet it is missed once
    its file is gone. -/
theorem empty_configuration_forgotten :
    ¬ ∀ (s : Config.Store) (uses : List Use) (t : Table), (s.read none).1 = .ok t →
      (∀ use ∈ uses, use.renames = false) →
        (Config.Store.read (Use.after 0 (s.read none).2 uses) none).1 = .ok t := by
  intro h
  have hread : ((Sample.storeWith []).read none).1 = .ok [] := by cbv
  have hgone : (Config.Store.read (Use.after 0 ((Sample.storeWith []).read none).2
      [.removeFile "c"]) none).1 = .error (.file .notFound) := by cbv
  rw [h (Sample.storeWith []) [.removeFile "c"] [] hread (by simp [Use.renames])] at hgone
  cases hgone

end ChangeFeed
