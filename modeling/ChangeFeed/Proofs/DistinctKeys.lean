/-
  ChangeFeed.Proofs.DistinctKeys — no table that was read has a key twice.

  A table is a list of entries, and nothing about a list keeps a key from
  occurring twice.  Whoever builds a table does: a document writes under each
  name once, whether it spells a table out, opens it with a header or makes it
  on the way to another, and a configuration whose client is renamed is written
  to in its place.  So distinct keys, at every depth, are an invariant of
  reading, and of what a store remembers.

  Main results:
    * `Toml.distinct_within` — writing somewhere in a table.
    * `Toml.distinct_ofOctets` — what a document describes.
    * `Config.Store.Distinct.readDefault` — what a store hands out and keeps.
-/

import ChangeFeed.Proofs.ConsumerSettings

namespace ChangeFeed

/-! ## §1. Distinct keys. -/

/-- Does it hold no other values? -/
def Value.isScalar : Value → Bool
  | .list _ => false
  | .table _ => false
  | _ => true

/-- No table in it has a key twice. -/
inductive Value.Distinct : Value → Prop where
  | scalar {v : Value} (h : v.isScalar = true) : v.Distinct
  | list {xs : List Value} (h : ∀ v ∈ xs, v.Distinct) : Distinct (.list xs)
  | table {t : Table} (keys : t.keys.Nodup) (h : ∀ e ∈ t, e.2.Distinct) : Distinct (.table t)

theorem Value.Distinct.elements {xs : List Value} (h : (Value.list xs).Distinct) :
    ∀ v ∈ xs, v.Distinct := by
  cases h with
  | scalar h => cases h
  | list h => exact h

theorem Value.distinct_concat {xs : List Value} {v : Value} (hxs : ∀ w ∈ xs, w.Distinct)
    (hv : v.Distinct) : (Value.list (xs ++ [v])).Distinct := by
  refine .list fun w hw => ?_
  rcases List.mem_append.1 hw with hw | hw
  · exact hxs w hw
  · rw [List.mem_singleton.1 hw]
    exact hv

/-- Nor has the table itself. -/
def Table.Distinct (t : Table) : Prop := (Value.table t).Distinct

namespace Table

variable {t u : Table} {k : String} {v : Value}

theorem Distinct.keys (h : t.Distinct) : t.keys.Nodup := by
  cases h with
  | scalar h => cases h
  | table keys h => exact keys

theorem Distinct.value (h : t.Distinct) {e : String × Value} (he : e ∈ t) : e.2.Distinct := by
  cases h with
  | scalar h => cases h
  | table keys h => exact h e he

theorem distinct_nil : Distinct [] := .table List.nodup_nil fun e he => by cases he

theorem mem_of_get? (h : get? t k = some v) : (k, v) ∈ t := by
  induction t with
  | nil => cases h
  | cons e rest ih =>
    obtain ⟨l, w⟩ := e
    rw [get?_cons] at h
    split at h
    · next hk =>
      obtain rfl := Option.some.inj h
      rw [hk]
      exact List.mem_cons_self
    · exact List.mem_cons_of_mem _ (ih h)

theorem Distinct.get? (h : t.Distinct) (hk : get? t k = some v) : v.Distinct :=
  h.value (mem_of_get? hk)

theorem mem_put {e : String × Value} (h : e ∈ put t k v) : e ∈ t ∨ e = (k, v) := by
  induction t with
  | nil => exact .inr (List.mem_singleton.1 h)
  | cons d rest ih =>
    obtain ⟨l, w⟩ := d
    unfold put at h
    split at h
    · next hl =>
      rcases List.mem_cons.1 h with rfl | hrest
      · exact .inr (by rw [hl])
      · exact .inl (List.mem_cons_of_mem _ hrest)
    · rcases List.mem_cons.1 h with rfl | hrest
      · exact .inl List.mem_cons_self
      · exact (ih hrest).imp_left (List.mem_cons_of_mem _)

/-- Writing makes no key occur twice, at whatever depth. -/
theorem Distinct.put (h : t.Distinct) (k : String) (hv : v.Distinct) : (put t k v).Distinct := by
  refine .table (nodup_put h.keys k v) fun e he => ?_
  rcases mem_put he with he | rfl
  · exact h.value he
  · exact hv

end Table

/-- A section of a configuration has distinct keys, and so has none. -/
theorem Config.nodup_section {config : Value} {name : String} {section_ : Table}
    (hconfig : config.Distinct)
    (h : lookFor config name (.table []) = .ok (.table section_)) : section_.keys.Nodup := by
  obtain ⟨t, rfl, hget⟩ := lookFor_ok_iff.1 h
  have ht : Table.Distinct t := hconfig
  unfold Table.getD at hget
  cases hfound : Table.get? t name with
  | none =>
    rw [hfound] at hget
    cases hget
    exact List.nodup_nil
  | some v =>
    rw [hfound] at hget
    obtain rfl : v = .table section_ := hget
    have hsection : Table.Distinct section_ := ht.get? hfound
    exact hsection.keys

namespace Toml

/-! ## §2. Writing under a path. -/

/-- Whatever a change makes of a table, it makes no key occur twice. -/
def KeepsDistinct (change : Table → Option Table) : Prop :=
  ∀ ⦃t u : Table⦄, t.Distinct → change t = some u → u.Distinct

theorem distinct_addNew (name : String) {v : Value} (hv : v.Distinct) :
    KeepsDistinct (addNew name v) := by
  intro t u ht h
  unfold addNew at h
  split at h
  · cases h
  · obtain rfl := Option.some.inj h
    exact ht.put name hv

theorem distinct_addItem (name : String) : KeepsDistinct (addItem name) := by
  intro t u ht h
  unfold addItem at h
  split at h
  · obtain rfl := Option.some.inj h
    have hfirst : ∀ w ∈ ([] : List Value), w.Distinct := fun w hw => by cases hw
    exact ht.put name (Value.distinct_concat hfirst Table.distinct_nil)
  · next xs hget =>
    obtain rfl := Option.some.inj h
    exact ht.put name (Value.distinct_concat (ht.get? hget).elements Table.distinct_nil)
  · cases h

/-- **A change at the end of a path is one of the whole table.**  The induction
    is on the path; what lies at its end is distinct because all of it is. -/
theorem distinct_within {change : Table → Option Table} (hchange : KeepsDistinct change)
    (enterArrays : Bool) (path : Key) : KeepsDistinct (within enterArrays change path) := by
  induction path with
  | nil => exact hchange
  | cons name path ih =>
    intro t u ht h
    unfold within at h
    split at h
    · obtain ⟨w, hw, rfl⟩ := Option.map_eq_some_iff.1 h
      exact ht.put name (ih Table.distinct_nil hw)
    · next t' hget =>
      obtain ⟨w, hw, rfl⟩ := Option.map_eq_some_iff.1 h
      exact ht.put name (ih (ht.get? hget) hw)
    · next xs hget =>
      have hxs : ∀ v ∈ xs, v.Distinct := (ht.get? hget).elements
      split at h
      · next _ _ t' hlast =>
        obtain ⟨w, hw, rfl⟩ := Option.map_eq_some_iff.1 h
        have ht' : Table.Distinct t' := hxs _ (List.mem_of_getLast? hlast)
        have hbefore : ∀ v ∈ xs.dropLast, v.Distinct := fun v hv =>
          hxs v (List.dropLast_subset xs hv)
        exact ht.put name (Value.distinct_concat hbefore (ih ht' hw))
      · cases h
    · cases h

theorem distinct_addAt (enterArrays : Bool) (key : Key) {v : Value} (hv : v.Distinct) :
    KeepsDistinct (addAt enterArrays key v) := by
  intro t u ht h
  unfold addAt at h
  split at h
  · cases h
  · next name _ => exact distinct_within (distinct_addNew name hv) enterArrays _ ht h

/-! ## §3. Values as they are written. -/

theorem ok_of_wellFormed {α : Type} {x : Option α} {a : α} (h : wellFormed x = .ok a) :
    x = some a := by
  cases x with
  | none => cases h
  | some b => exact congrArg some (Except.ok.inj h)

theorem isScalar_momentFrom {day : Calendar.Day} {s rest : List Char} {v : Value}
    (h : momentFrom day s = some (v, rest)) : v.isScalar = true := by
  unfold momentFrom at h
  split at h
  · cases h
  · split at h <;> (cases h; rfl)

theorem isScalar_takeMarked {s rest : List Char} {v : Value}
    (h : takeMarked s = some (v, rest)) : v.isScalar = true := by
  unfold takeMarked at h
  simp only at h
  -- in each of the three bases there are digits, and they write an integer
  split at h
  · split at h <;> cases h
    rfl
  · split at h <;> cases h
    rfl
  · split at h <;> cases h
    rfl
  · cases h

theorem isScalar_takeWord {s rest : List Char} {v : Value}
    (h : takeWord s = some (v, rest)) : v.isScalar = true := by
  unfold takeWord at h
  simp only at h
  split at h <;> cases h <;> rfl

theorem isScalar_takePlain {s rest : List Char} {v : Value}
    (h : takePlain s = some (v, rest)) : v.isScalar = true := by
  unfold takePlain at h
  split at h
  · next r htruth =>
    obtain rfl := Option.some.inj h
    unfold takeTruth at htruth
    split at htruth <;> cases htruth <;> rfl
  · split at h
    · cases h
      rfl
    · rcases Option.or_eq_some_iff.1 h with h | ⟨-, h⟩
      · exact isScalar_takeMarked h
      · exact isScalar_takeWord h

theorem isScalar_takeDecimal {s rest : List Char} {result : Except Failure Value} {v : Value}
    (h : takeDecimal s = some (result, rest)) (hv : result = .ok v) : v.isScalar = true := by
  obtain ⟨whole, hwhole, h⟩ := Option.bind_eq_some_iff.1 h
  simp only at h
  split at h
  · obtain ⟨rfl, -⟩ := Prod.mk.inj (Option.some.inj h)
    generalize Whole.ofDigits _ _ = digits at hv
    cases digits with
    | error f => cases hv
    | ok i =>
      cases hv
      rfl
  · obtain ⟨rfl, -⟩ := Prod.mk.inj (Option.some.inj h)
    cases hv
    rfl

theorem isScalar_takeScalar {s rest : List Char} {v : Value}
    (h : takeScalar s = .ok (v, rest)) : v.isScalar = true := by
  unfold takeScalar at h
  simp only at h
  split at h
  · next day rest' hday =>
    cases hmoment : momentFrom day rest' with
    | none =>
      rw [hmoment] at h
      cases h
    | some r =>
      rw [hmoment] at h
      obtain rfl : r = (v, rest) := Except.ok.inj h
      exact isScalar_momentFrom hmoment
  · split at h
    · next r hplain =>
      obtain rfl := Except.ok.inj h
      exact isScalar_takePlain hplain
    · split at h
      · next result rest' hdecimal =>
        cases result with
        | error f => cases h
        | ok w =>
          obtain rfl : w = v := congrArg Prod.fst (Except.ok.inj h)
          exact isScalar_takeDecimal hdecimal rfl
      · cases h

/-- What has been read with so much fuel has distinct keys. -/
structure ReadsDistinct (fuel : Nat) : Prop where
  value : ∀ {room s v rest}, takeValue room fuel s = .ok (v, rest) → v.Distinct
  items : ∀ {room s vs rest}, takeItems room fuel s = .ok (vs, rest) → ∀ v ∈ vs, v.Distinct
  entries : ∀ {room table closed s t rest}, table.Distinct →
    takeEntries room fuel table closed s = .ok (t, rest) → t.Distinct

theorem ReadsDistinct.value_succ {fuel : Nat} (ih : ReadsDistinct fuel) {room : Nat}
    {s rest : List Char} {v : Value} (h : takeValue room (fuel + 1) s = .ok (v, rest)) :
    v.Distinct := by
  unfold takeValue at h
  split at h
  · obtain ⟨room', -, h⟩ := Config.ok_of_bind h
    obtain ⟨rest', -, h⟩ := Config.ok_of_bind h
    split at h
    · cases h
      exact .list fun v hv => by cases hv
    · obtain ⟨items, hitems, h⟩ := Config.ok_of_bind h
      cases h
      exact .list (ih.items hitems)
  · obtain ⟨room', -, h⟩ := Config.ok_of_bind h
    split at h
    · cases h
      exact Table.distinct_nil
    · obtain ⟨entries, hentries, h⟩ := Config.ok_of_bind h
      cases h
      exact ih.entries Table.distinct_nil hentries
  · split at h
    · cases h
      exact .scalar rfl
    · exact .scalar (isScalar_takeScalar h)

theorem ReadsDistinct.items_succ {fuel : Nat} (ih : ReadsDistinct fuel) {room : Nat}
    {s rest : List Char} {vs : List Value} (h : takeItems room (fuel + 1) s = .ok (vs, rest)) :
    ∀ v ∈ vs, v.Distinct := by
  unfold takeItems at h
  obtain ⟨first, hfirst, h⟩ := Config.ok_of_bind h
  obtain ⟨rest', -, h⟩ := Config.ok_of_bind h
  have hone : ∀ v ∈ [first.1], v.Distinct := fun v hv => by
    rw [List.mem_singleton.1 hv]
    exact ih.value hfirst
  split at h
  · cases h
    exact hone
  · obtain ⟨rest', -, h⟩ := Config.ok_of_bind h
    split at h
    · cases h
      exact hone
    · obtain ⟨more, hmore, h⟩ := Config.ok_of_bind h
      cases h
      intro v hv
      rcases List.mem_cons.1 hv with rfl | hv
      · exact ih.value hfirst
      · exact ih.items hmore v hv
  · cases h

theorem ReadsDistinct.entries_succ {fuel : Nat} (ih : ReadsDistinct fuel) {room : Nat}
    {table t : Table} {closed : List Key} {s rest : List Char} (htable : table.Distinct)
    (h : takeEntries room (fuel + 1) table closed s = .ok (t, rest)) : t.Distinct := by
  unfold takeEntries at h
  obtain ⟨key, -, h⟩ := Config.ok_of_bind h
  obtain ⟨rest', -, h⟩ := Config.ok_of_bind h
  obtain ⟨value, hvalue, h⟩ := Config.ok_of_bind h
  simp only at h
  split at h
  · cases h
  · obtain ⟨table', hadded, h⟩ := Config.ok_of_bind h
    have htable' : table'.Distinct :=
      distinct_addAt false key.1 (ih.value hvalue) htable (ok_of_wellFormed hadded)
    split at h
    · cases h
      exact htable'
    · exact ih.entries htable' h
    · cases h

/-- **What is written has distinct keys.**  The induction is on the fuel, for
    values, the elements of arrays and the entries of tables together. -/
theorem readsDistinct (fuel : Nat) : ReadsDistinct fuel := by
  induction fuel with
  | zero =>
    exact ⟨fun h => (by cases h), fun h => (by cases h), fun _ h => by cases h⟩
  | succ fuel ih => exact ⟨ih.value_succ, ih.items_succ, ih.entries_succ⟩

/-! ## §4. Documents. -/

/-- What is written by a statement has distinct keys. -/
def Statement.Distinct : Statement → Prop
  | .write _ v => v.Distinct
  | _ => True

theorem distinct_takeStatement {s rest : List Char} {x : Statement}
    (h : takeStatement s = .ok (x, rest)) : x.Distinct := by
  unfold takeStatement at h
  split at h
  · obtain ⟨key, -, h⟩ := Config.ok_of_bind h
    obtain ⟨rest', -, h⟩ := Config.ok_of_bind h
    obtain ⟨rest', -, h⟩ := Config.ok_of_bind h
    cases h
    trivial
  · obtain ⟨key, -, h⟩ := Config.ok_of_bind h
    obtain ⟨rest', -, h⟩ := Config.ok_of_bind h
    cases h
    trivial
  · obtain ⟨key, -, h⟩ := Config.ok_of_bind h
    obtain ⟨rest', -, h⟩ := Config.ok_of_bind h
    obtain ⟨value, hvalue, h⟩ := Config.ok_of_bind h
    cases h
    exact (readsDistinct _).value hvalue

/-- **A statement makes no key occur twice.** -/
theorem Building.distinct_apply {b b' : Building} {x : Statement} (hb : b.root.Distinct)
    (hx : x.Distinct) (h : b.apply x = some b') : b'.root.Distinct := by
  have hsame : KeepsDistinct some := fun t u ht h => Option.some.inj h ▸ ht
  cases x with
  | openTable key =>
    simp only [Building.apply, Building.openTable] at h
    split at h
    · cases h
    · obtain ⟨root, hroot, rfl⟩ := Option.map_eq_some_iff.1 h
      exact distinct_within hsame true key hb hroot
  | openItem key =>
    simp only [Building.apply, Building.openItem] at h
    split at h
    · cases h
    · split at h
      · cases h
      · next name _ =>
        obtain ⟨root, hroot, rfl⟩ := Option.map_eq_some_iff.1 h
        exact distinct_within (distinct_addItem name) true key.dropLast hb hroot
  | write key v =>
    simp only [Building.apply, Building.write] at h
    split at h
    · cases h
    · obtain ⟨root, hroot, rfl⟩ := Option.map_eq_some_iff.1 h
      exact distinct_addAt true (b.current ++ key) hx hb hroot

theorem distinct_build {fuel : Nat} {b b' : Building} {s : List Char} (hb : b.root.Distinct)
    (h : build fuel b s = .ok b') : b'.root.Distinct := by
  induction fuel generalizing b s with
  | zero =>
    obtain rfl := Except.ok.inj h
    exact hb
  | succ fuel ih =>
    unfold build at h
    split at h
    · obtain rfl := Except.ok.inj h
      exact hb
    · exact ih hb h
    · obtain ⟨rest, -, h⟩ := Config.ok_of_bind h
      exact ih hb h
    · obtain ⟨statement, hstatement, h⟩ := Config.ok_of_bind h
      obtain ⟨b₁, happlied, h⟩ := Config.ok_of_bind h
      obtain ⟨rest, -, h⟩ := Config.ok_of_bind h
      exact ih (Building.distinct_apply hb (distinct_takeStatement hstatement)
        (ok_of_wellFormed happlied)) h

/-- **No table that a document describes has a key twice.** -/
theorem distinct_ofOctets {document : Octets} {t : Table} (h : ofOctets document = .ok t) :
    t.Distinct := by
  unfold ofOctets at h
  split at h
  · cases h
  · next s _ =>
    unfold ofChars at h
    simp only at h
    generalize hbuilt : build _ _ _ = built at h
    cases built with
    | error f => cases h
    | ok b =>
      obtain rfl : b.root = t := Except.ok.inj h
      exact distinct_build Table.distinct_nil hbuilt

end Toml

/-! ## §5. Stores. -/

namespace Config.Store

variable {s : Store} {t : Table}

/-- What is remembered has distinct keys. -/
def Distinct (s : Store) : Prop := ∀ t, s.cached = some t → t.Distinct

theorem distinct_start (files : Files) (named : Option String) : (start files named).Distinct :=
  fun t ht => by cases ht

/-- Whatever is in a file, it is read as a table with distinct keys. -/
theorem distinct_load {path : String} (h : s.load path = .ok t) : t.Distinct := by
  unfold load at h
  split at h
  · exact Toml.distinct_ofOctets h
  · cases h

theorem distinct_readFile {path : String} (h : s.readFile path = .ok t) : t.Distinct := by
  unfold readFile at h
  split at h
  · exact distinct_load h
  · cases h

theorem distinct_readAfresh (h : s.readAfresh.1 = .ok t) : t.Distinct := by
  unfold readAfresh at h
  rcases hlocate : s.locate with ⟨result, s'⟩
  rw [hlocate] at h
  cases result with
  | error f => cases h
  | ok path =>
    simp only at h
    cases hload : s'.load path with
    | error f =>
      rw [hload] at h
      cases h
    | ok u =>
      rw [hload] at h
      obtain rfl := Except.ok.inj h
      exact distinct_load hload

/-- **What is handed out was remembered or has distinct keys.** -/
theorem cached_or_distinct (h : s.readDefault.1 = .ok t) : s.cached = some t ∨ t.Distinct := by
  rcases readDefault_cases s with ⟨u, hcached, -, hread⟩ | ⟨-, hread⟩
  · rw [hread] at h
    rw [← Except.ok.inj h]
    exact .inl hcached
  · rw [hread] at h
    exact .inr (distinct_readAfresh h)

/-- What is remembered keeps its keys distinct, whether or not there is
    something to hand out. -/
theorem Distinct.readDefault (hs : s.Distinct) : s.readDefault.2.Distinct := by
  intro u hu
  cases hresult : s.readDefault.1 with
  | ok t =>
    rw [cached_readDefault hresult] at hu
    obtain rfl := Option.some.inj hu
    exact (cached_or_distinct hresult).elim (hs t) id
  | error f =>
    rcases readDefault_cases s with ⟨t, -, -, hread⟩ | ⟨-, hread⟩
    · rw [hread] at hresult
      cases hresult
    · rw [hread] at hresult hu
      rw [cached_readAfresh_of_error hresult] at hu
      exact hs u hu

/-- Another name for the client is written in its place. -/
theorem distinct_withAppId {config config' : Value} {name : String} (hconfig : config.Distinct)
    (h : withAppId config name = .ok config') : config'.Distinct := by
  have hname : Value.Distinct (.text name) := .scalar rfl
  cases config with
  | table t =>
    have ht : Table.Distinct t := hconfig
    simp only [withAppId] at h
    split at h
    · cases h
      exact ht.put "client" (Table.distinct_nil.put "app_id" hname)
    · next client hclient =>
      cases h
      have hold : Table.Distinct client := ht.get? hclient
      exact ht.put "client" (hold.put "app_id" hname)
    · cases h
  | _ => cases h

theorem distinct_renamed {config config' : Value} {instead : Option String}
    (hconfig : config.Distinct) (h : renamed config instead = .ok config') :
    config'.Distinct := by
  unfold renamed at h
  split at h
  · cases h
    exact hconfig
  · split at h
    · cases h
      exact hconfig
    · exact distinct_withAppId hconfig h

theorem Distinct.remember (hs : s.Distinct) {config : Value} (hconfig : config.Distinct) :
    (s.remember config).Distinct := by
  cases config with
  | table t =>
    intro u hu
    obtain rfl : t = u := Option.some.inj hu
    exact hconfig
  | _ => exact hs

end Config.Store

end ChangeFeed
