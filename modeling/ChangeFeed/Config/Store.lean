/-
  ChangeFeed.Config.Store — where configurations come from.

  A configuration is read from a file given by path, or from the one that the
  environment names.  The latter is looked for once and read once: its path
  is remembered as soon as it has been found, and its content as soon as it
  has been read, unless there was nothing in it.

  Main results:
    * `read_of_cached`, `locate_of_found` — what is remembered is used.
    * `readDefault_again` — whoever asks twice gets the same answer.
    * `read_file_config` — reading by path remembers nothing.
-/

import ChangeFeed.Config.Basic
import ChangeFeed.Config.Files
import ChangeFeed.Toml.Document

namespace ChangeFeed.Config

/-- Where configurations come from. -/
structure Store where
  files : Files
  /-- The path that the environment names. -/
  named : Option String
  /-- The path of the configuration file, once it has been found. -/
  found : Option String
  /-- What was last read from that file. -/
  cached : Option Table

namespace Store

/-- Nothing has been looked for yet. -/
def start (files : Files) (named : Option String) : Store := ⟨files, named, none, none⟩

/-- The environment names a path, or none.  It cannot name what is no path. -/
def name (s : Store) (path : Option String) : Except FileFault Store :=
  if path.any (·.contains '\x00') then .error .nullInPath else .ok { s with named := path }

/-! ## §1. Finding the file. -/

/-- The path that is used when the environment names none. -/
def defaultPath : String := "./config.toml"

/-- The path of the configuration file. -/
def locate (s : Store) : Except Failure String × Store :=
  match s.found with
  | some path => (.ok path, s)
  | none =>
    let path := s.named.getD defaultPath
    if s.files.isFile path then
      let absolute := s.files.absolute path
      (.ok absolute, { s with found := some absolute })
    else (.error (.noConfigFile path), s)

theorem locate_of_found {s : Store} {path : String} (h : s.found = some path) :
    s.locate = (.ok path, s) := by
  simp [locate, h]

/-- The path is known once the file has been found. -/
theorem found_of_locate {s s' : Store} {path : String} (h : s.locate = (.ok path, s')) :
    s'.found = some path := by
  unfold locate at h
  cases hknown : s.found with
  | some known =>
    rw [hknown] at h
    cases h
    exact hknown
  | none =>
    rw [hknown] at h
    simp only at h
    split at h
    · cases h
      rfl
    · cases h

/-- Nothing is remembered of a file that is not found. -/
theorem locate_of_missing {s : Store} {f : Failure} (h : s.locate.1 = .error f) :
    s.locate.2 = s := by
  unfold locate at h ⊢
  split
  · rfl
  · simp only
    split
    · next hknown hfile =>
      rw [hknown] at h
      simp only [hfile] at h
      cases h
    · rfl

/-- Looking for the file does not touch what is remembered of its content. -/
theorem cached_locate (s : Store) : s.locate.2.cached = s.cached := by
  unfold locate
  split
  · rfl
  · simp only
    split <;> rfl

/-! ## §2. Reading it. -/

/-- The table in the file at the end of a path. -/
def load (s : Store) (path : String) : Except Failure Table :=
  match s.files.read path with
  | .ok content => Toml.ofOctets content
  | .error fault => .error (.file fault)

/-- The configuration in the file at the end of a path. -/
def readFile (s : Store) (path : String) : Except Failure Table :=
  if s.files.isFile path then s.load path else .error (.noConfigFile path)

/-- Reads the file that is found, and remembers what is in it. -/
def readAfresh (s : Store) : Except Failure Table × Store :=
  match s.locate with
  | (.error f, s) => (.error f, s)
  | (.ok path, s) =>
    match s.load path with
    | .ok t => (.ok t, { s with cached := some t })
    | .error f => (.error f, s)

/-- The configuration.  One that is remembered is used unless it is empty. -/
def readDefault (s : Store) : Except Failure Table × Store :=
  match s.cached with
  | some (e :: es) => (.ok (e :: es), s)
  | _ => s.readAfresh

/-- The configuration: at the end of a path if one is given. -/
def read (s : Store) (path : Option String) : Except Failure Table × Store :=
  match path with
  | some path => (s.readFile path, s)
  | none => s.readDefault

theorem read_of_cached {s : Store} {t : Table} (h : s.cached = some t) (ne : t ≠ []) :
    s.read none = (.ok t, s) := by
  cases t with
  | nil => exact absurd rfl ne
  | cons e es => simp [read, readDefault, h]

theorem read_file_config (s : Store) (path : String) : (s.read (some path)).2 = s := rfl

/-! ## §3. Reading it again. -/

/-- What is remembered is used, unless it is empty. -/
theorem readDefault_of_cached {s : Store} {t : Table} (h : s.cached = some t) (ne : t ≠ []) :
    s.readDefault = (.ok t, s) := read_of_cached h ne

/-- An empty configuration is not used: the file is read again. -/
theorem readDefault_of_empty {s : Store} (h : s.cached = some []) :
    s.readDefault = s.readAfresh := by
  unfold readDefault
  rw [h]

/-- The file that was read has been found, and what is in it is remembered. -/
theorem readAfresh_ok {s : Store} {t : Table} (h : s.readAfresh.1 = .ok t) :
    ∃ path, s.readAfresh.2.found = some path ∧ s.readAfresh.2.cached = some t := by
  unfold readAfresh at h ⊢
  rcases hlocate : s.locate with ⟨result, s'⟩
  rw [hlocate] at h
  cases result with
  | error f => cases h
  | ok path =>
    simp only at h ⊢
    cases hload : s'.load path with
    | error f =>
      rw [hload] at h
      cases h
    | ok u =>
      rw [hload] at h
      obtain rfl := Except.ok.inj h
      have hfound := found_of_locate hlocate
      exact ⟨path, hfound, rfl⟩

/-- A file that is read again is found where it was, or missed as it was. -/
theorem readAfresh_again (s : Store) : s.readAfresh.2.readAfresh.1 = s.readAfresh.1 := by
  unfold readAfresh
  rcases hlocate : s.locate with ⟨result, s'⟩
  cases result with
  | error f =>
    have hsame : s' = s := by rw [← locate_of_missing (s := s) (f := f) (by rw [hlocate]), hlocate]
    simp only
    rw [hsame, hlocate]
  | ok path =>
    have hfound := found_of_locate hlocate
    simp only
    cases hload : s'.load path with
    | error f =>
      simp only
      rw [locate_of_found hfound]
      simp only
      rw [hload]
    | ok t =>
      -- by now the path is known, and the files are the same
      have hknown : ({ s' with cached := some t } : Store).found = some path := hfound
      have hsame : ({ s' with cached := some t } : Store).load path = .ok t := hload
      simp only
      rw [locate_of_found hknown]
      simp only
      rw [hsame]

/-- A failure to read changes nothing that is remembered of the content. -/
theorem cached_readAfresh_of_error {s : Store} {f : Failure} (h : s.readAfresh.1 = .error f) :
    s.readAfresh.2.cached = s.cached := by
  unfold readAfresh at h ⊢
  have hlocated := s.cached_locate
  rcases hlocate : s.locate with ⟨result, s'⟩
  rw [hlocate] at h hlocated
  cases result with
  | error f => exact hlocated
  | ok path =>
    simp only at h ⊢
    cases hload : s'.load path with
    | error f => exact hlocated
    | ok t =>
      rw [hload] at h
      cases h

/-- What is remembered is used if it is not empty, and otherwise the file is
    read. -/
theorem readDefault_cases (s : Store) :
    (∃ t, s.cached = some t ∧ t ≠ [] ∧ s.readDefault = (.ok t, s)) ∨
      (∀ t, s.cached = some t → t = []) ∧ s.readDefault = s.readAfresh := by
  cases hcached : s.cached with
  | none =>
    refine .inr ⟨fun t ht => (by cases ht), ?_⟩
    unfold readDefault
    rw [hcached]
  | some t =>
    by_cases ht : t = []
    · subst ht
      exact .inr ⟨fun u hu => (Option.some.inj hu).symm, readDefault_of_empty hcached⟩
    · exact .inl ⟨t, rfl, ht, readDefault_of_cached hcached ht⟩

/-- What has been read is remembered. -/
theorem cached_readDefault {s : Store} {t : Table} (h : s.readDefault.1 = .ok t) :
    s.readDefault.2.cached = some t := by
  rcases readDefault_cases s with ⟨u, hcached, -, hread⟩ | ⟨-, hread⟩
  · rw [hread] at h ⊢
    rw [hcached, Except.ok.inj h]
  · rw [hread] at h ⊢
    obtain ⟨path, -, hcached⟩ := readAfresh_ok h
    exact hcached

/-- Whoever asks again gets the same configuration, or fails in the same way. -/
theorem readDefault_again (s : Store) : s.readDefault.2.readDefault.1 = s.readDefault.1 := by
  rcases readDefault_cases s with ⟨t, -, -, hread⟩ | ⟨hempty, hread⟩
  · rw [hread, hread]
  · rw [hread]
    rcases readDefault_cases s.readAfresh.2 with ⟨t, hcached, ht, hagain⟩ | ⟨-, hagain⟩
    · rw [hagain]
      cases hresult : s.readAfresh.1 with
      | ok u =>
        obtain ⟨path, -, hcached'⟩ := readAfresh_ok hresult
        rw [hcached] at hcached'
        rw [Option.some.inj hcached']
      | error f =>
        -- what is remembered was remembered before, and then the file is not read
        rw [cached_readAfresh_of_error hresult] at hcached
        exact absurd (hempty t hcached) ht
    · rw [hagain]
      exact readAfresh_again s

/-! ## §4. Naming the client. -/

/-- A configuration whose client has another name. -/
def withAppId (config : Value) (name : String) : Except Failure Value :=
  match config with
  | .table t =>
    match Table.get? t "client" with
    | none => .ok (.table (Table.put t "client" (.table [("app_id", .text name)])))
    | some (.table c) =>
      .ok (.table (Table.put t "client" (.table (Table.put c "app_id" (.text name)))))
    | some v => .error (.shape (.noAssignment v))
  | v => .error (.shape (.noOperation v.kindName "setdefault"))

/-- A configuration whose client has another name, if one is given. -/
def renamed (config : Value) (name : Option String) : Except Failure Value :=
  match name with
  | none => .ok config
  | some name => if name.isEmpty then .ok config else withAppId config name

/-- Makes a configuration that came from the store the one that is
    remembered. -/
def remember (s : Store) (config : Value) : Store :=
  match config with
  | .table t => { s with cached := some t }
  | _ => s

end Store

end ChangeFeed.Config
