/-
  ChangeFeed.Proofs.Acceptance — the options with which a client can be made.

  A client has to have a name.  Its two times need not be given, but a poll has to
  wait for more than no time and the pause before the topics are subscribed to must
  not be shorter than none.  No other option matters.  Where something is wrong with
  several options each of them is complained about, once and in their order.

  Main results:
    * `Double.isPositive_iff`, `Double.isNonNegative_iff` — signs are those of the
      values.
    * `Options.readAppId_given_iff`, `Options.numberWhere_ok_iff` — single options.
    * `Options.validate_checked`, `Options.accepts_iff` — a whole section.
-/

import Mathlib.Algebra.Order.Field.Rat
import Mathlib.Tactic.Linarith
import Mathlib.Tactic.NormNum
import ChangeFeed.Proofs.ConsumerSettings

namespace ChangeFeed

/-! ## §1. Signs. -/

namespace Double

/-- The value of a finite number. -/
def value (negative : Bool) (mantissa : Nat) (exponent : Int) : ℚ :=
  (if negative then -1 else 1) * mantissa * 2 ^ exponent

/-- Greater than zero. -/
def Positive : Double → Prop
  | .nan => False
  | .infinite negative => negative = false
  | .finite negative mantissa exponent => 0 < value negative mantissa exponent

/-- Not less than zero. -/
def NonNegative : Double → Prop
  | .nan => False
  | .infinite negative => negative = false
  | .finite negative mantissa exponent => 0 ≤ value negative mantissa exponent

theorem isPositive_iff (x : Double) : x.isPositive = true ↔ x.Positive := by
  cases x with
  | nan => simp [isPositive, Positive]
  | infinite negative => simp [isPositive, Positive]
  | finite negative m e =>
    have hscale : (0 : ℚ) < 2 ^ e := zpow_pos (by norm_num) e
    show (!negative && m != 0) = true ↔ 0 < value negative m e
    unfold value
    rw [mul_pos_iff_of_pos_right hscale]
    cases negative with
    | false => simp [Nat.pos_iff_ne_zero]
    | true =>
      -- a size with its sign turned round is not above zero
      have hsize : ¬ (0 : ℚ) < -1 * m := by
        intro h
        have hm : (0 : ℚ) ≤ m := Nat.cast_nonneg m
        linarith
      simp only [Bool.not_true, Bool.false_and, Bool.false_eq_true, if_true, false_iff]
      exact hsize

theorem isNonNegative_iff (x : Double) : x.isNonNegative = true ↔ x.NonNegative := by
  cases x with
  | nan => simp [isNonNegative, NonNegative]
  | infinite negative => simp [isNonNegative, NonNegative]
  | finite negative m e =>
    have hscale : (0 : ℚ) < 2 ^ e := zpow_pos (by norm_num) e
    show (!negative || m == 0) = true ↔ 0 ≤ value negative m e
    unfold value
    rw [mul_nonneg_iff_of_pos_right hscale]
    cases negative with
    | false => simp
    | true =>
      -- zero is zero whatever its sign
      have hm : (0 : ℚ) ≤ m := Nat.cast_nonneg m
      simp only [Bool.not_true, Bool.false_or, beq_iff_eq, if_true]
      constructor
      · rintro rfl
        simp
      · intro h
        have hzero : (m : ℚ) = 0 := by linarith
        exact_mod_cast hzero

theorem positive_one : one.Positive := (isPositive_iff one).1 (by decide +kernel)

theorem nonNegative_zero : zero.NonNegative := (isNonNegative_iff zero).1 rfl

end Double

namespace Config.Options

/-! ## §2. What an acceptable section holds. -/

/-- What a section says of an option. -/
def given (client : Table) (field : OptionField) : Option Value := Table.get? client field.name

/-- The section gives the client a name. -/
structure Called (client : Table) (name : String) : Prop where
  given : ∃ v, given client .appId = some v ∧ IsText v name
  nonempty : name.isEmpty = false

/-- The time that an option comes to, or that is taken if it is not given. -/
inductive Amounts (instead : Double) : Option Value → Double → Prop where
  | absent : Amounts instead none instead
  | read {v : Value} {x : Double} (h : number v = .ok x) : Amounts instead (some v) x

/-- The options that a section gives a client. -/
structure Acceptable (client : Table) (o : Options) : Prop where
  name : Called client o.appId
  pollTimeout : Amounts .one (given client .pollTimeout) o.pollTimeout
  positive : o.pollTimeout.Positive
  initWait : Amounts .zero (given client .initWait) o.initWait
  nonNegative : o.initWait.NonNegative

/-- An option that no client can be made with. -/
def Offends (client : Table) : OptionField → Prop
  | .appId => ¬ ∃ name, Called client name
  | .pollTimeout => ¬ ∃ x, Amounts .one (given client .pollTimeout) x ∧ x.Positive
  | .initWait => ¬ ∃ x, Amounts .zero (given client .initWait) x ∧ x.NonNegative

/-- What is wrong with an option. -/
inductive Wrong (client : Table) : OptionField → OptionIssue → Prop where
  | missing (h : given client .appId = none) : Wrong client .appId .missing
  | notText {v : Value} (h : given client .appId = some v) (htext : ∀ s, v ≠ .text s)
      (hoctets : ∀ b, v ≠ .octets b) : Wrong client .appId .notText
  | undecodable {b : Octets} (h : given client .appId = some (.octets b))
      (hb : ∀ s, Octets.encode s ≠ b) : Wrong client .appId .undecodableText
  | empty {v : Value} (h : given client .appId = some v) (hv : IsText v "") :
      Wrong client .appId .emptyText
  /-- A time is no number. -/
  | unread {field : OptionField} {v : Value} {issue : OptionIssue} (hfield : field ≠ .appId)
      (h : given client field = some v) (hv : number v = .error issue) : Wrong client field issue
  | notPositive {v : Value} {x : Double} (h : given client .pollTimeout = some v)
      (hv : number v = .ok x) (hx : ¬ x.Positive) : Wrong client .pollTimeout .notPositive
  | negative {v : Value} {x : Double} (h : given client .initWait = some v)
      (hv : number v = .ok x) (hx : ¬ x.NonNegative) : Wrong client .initWait .negative

/-- The complaints about some options: one about each that offends, in their order. -/
inductive Complains (client : Table) : List OptionField → List Complaint → Prop where
  | done : Complains client [] []
  | fine {field : OptionField} {rest : List OptionField} {complaints : List Complaint}
      (h : ¬ Offends client field) (hrest : Complains client rest complaints) :
      Complains client (field :: rest) complaints
  | wrong {field : OptionField} {issue : OptionIssue} {rest : List OptionField}
      {complaints : List Complaint} (h : Offends client field) (hissue : Wrong client field issue)
      (hrest : Complains client rest complaints) :
      Complains client (field :: rest) (.option field issue :: complaints)

/-- What checking a section comes to. -/
inductive Checked (section_ : Value) : Except Failure Options → Prop where
  | accepted {client : Table} {o : Options} (htable : section_ = .table client)
      (h : Acceptable client o) : Checked section_ (.ok o)
  | refused {client : Table} {complaints : List Complaint} (htable : section_ = .table client)
      (ne : complaints ≠ [])
      (h : Complains client [.appId, .pollTimeout, .initWait] complaints) :
      Checked section_ (.error (.options complaints))
  /-- Of something that is no table nothing else is said. -/
  | noTable (h : ∀ client, section_ ≠ .table client) :
      Checked section_ (.error (.options [.notATable]))

/-! ## §3. Single options. -/

section

variable {client : Table}

theorem readAppId_given_iff {name : String} :
    readAppId (given client .appId) = .ok name ↔ Called client name := by
  rw [readAppId_ok_iff]
  constructor
  · rintro ⟨hgiven, hname⟩
    exact ⟨hgiven, hname⟩
  · intro h
    exact ⟨h.given, h.nonempty⟩

theorem wrong_of_readAppId {issue : OptionIssue}
    (h : readAppId (given client .appId) = .error issue) : Wrong client .appId issue := by
  -- a text is refused only if there is nothing in it
  have hempty : ∀ {s : String}, appIdOfText s = .error issue → s = "" ∧ issue = .emptyText := by
    intro s hs
    unfold appIdOfText at hs
    split at hs
    · next hs' => exact ⟨by simpa using hs', (Except.error.inj hs).symm⟩
    · cases hs
  cases hgiven : given client .appId with
  | none =>
    rw [hgiven] at h
    obtain rfl := Except.error.inj h
    exact .missing hgiven
  | some v =>
    rw [hgiven] at h
    cases v with
    | text s =>
      obtain ⟨rfl, rfl⟩ := hempty h
      exact .empty hgiven (.inl rfl)
    | octets b =>
      cases hdecoded : Octets.decode? b with
      | none =>
        simp only [readAppId, hdecoded] at h
        obtain rfl := Except.error.inj h
        refine .undecodable hgiven fun s hs => ?_
        rw [Octets.decode?_eq_some_iff.2 hs] at hdecoded
        cases hdecoded
      | some s =>
        simp only [readAppId, hdecoded] at h
        obtain ⟨rfl, rfl⟩ := hempty h
        exact .empty hgiven (.inr ⟨b, rfl, hdecoded⟩)
    | _ =>
      obtain rfl := Except.error.inj h
      exact .notText hgiven (by simp) (by simp)

section

variable {accepts : Double → Bool} {P : Double → Prop} {issue : OptionIssue} {instead x : Double}
  {v : Option Value}

/-- **A time is accepted exactly if it reads as a number of the right sign**, or if it
    is not given. -/
theorem numberWhere_ok_iff (hP : ∀ x, accepts x = true ↔ P x) (hinstead : P instead) :
    numberWhere accepts issue instead v = .ok x ↔ Amounts instead v x ∧ P x := by
  cases v with
  | none =>
    constructor
    · intro h
      obtain rfl := Except.ok.inj h
      exact ⟨.absent, hinstead⟩
    · rintro ⟨⟨⟩, -⟩
      rfl
  | some w =>
    simp only [numberWhere]
    cases hread : number w with
    | error i =>
      constructor
      · intro h
        cases h
      · rintro ⟨hx, -⟩
        cases hx with
        | read hx =>
          rw [hread] at hx
          cases hx
    | ok y =>
      simp only
      by_cases hy : accepts y = true
      · rw [if_pos hy]
        constructor
        · intro h
          obtain rfl := Except.ok.inj h
          exact ⟨.read hread, (hP y).1 hy⟩
        · rintro ⟨hx, -⟩
          cases hx with
          | read hx => rw [← hread, hx]
      · rw [if_neg hy]
        constructor
        · intro h
          cases h
        · rintro ⟨hx, hpx⟩
          cases hx with
          | read hx =>
            rw [hread] at hx
            obtain rfl := Except.ok.inj hx
            exact absurd ((hP y).2 hpx) hy

theorem numberWhere_error {i : OptionIssue} (hP : ∀ x, accepts x = true ↔ P x)
    (h : numberWhere accepts issue instead v = .error i) :
    ∃ w, v = some w ∧ (number w = .error i ∨ i = issue ∧ ∃ x, number w = .ok x ∧ ¬ P x) := by
  cases v with
  | none => cases h
  | some w =>
    refine ⟨w, rfl, ?_⟩
    simp only [numberWhere] at h
    cases hread : number w with
    | error j =>
      rw [hread] at h
      exact .inl h
    | ok x =>
      rw [hread] at h
      simp only at h
      split at h
      · cases h
      · next hx => exact .inr ⟨(Except.error.inj h).symm, x, rfl, fun hpx => hx ((hP x).2 hpx)⟩

end

theorem readPollTimeout_ok_iff {x : Double} : readPollTimeout (given client .pollTimeout) = .ok x ↔
    Amounts .one (given client .pollTimeout) x ∧ x.Positive :=
  numberWhere_ok_iff Double.isPositive_iff Double.positive_one

theorem readInitWait_ok_iff {x : Double} : readInitWait (given client .initWait) = .ok x ↔
    Amounts .zero (given client .initWait) x ∧ x.NonNegative :=
  numberWhere_ok_iff Double.isNonNegative_iff Double.nonNegative_zero

theorem wrong_of_readPollTimeout {issue : OptionIssue}
    (h : readPollTimeout (given client .pollTimeout) = .error issue) :
    Wrong client .pollTimeout issue := by
  obtain ⟨v, hgiven, hv | ⟨rfl, x, hv, hx⟩⟩ := numberWhere_error Double.isPositive_iff h
  · exact .unread (by simp) hgiven hv
  · exact .notPositive hgiven hv hx

theorem wrong_of_readInitWait {issue : OptionIssue}
    (h : readInitWait (given client .initWait) = .error issue) : Wrong client .initWait issue := by
  obtain ⟨v, hgiven, hv | ⟨rfl, x, hv, hx⟩⟩ := numberWhere_error Double.isNonNegative_iff h
  · exact .unread (by simp) hgiven hv
  · exact .negative hgiven hv hx

/-! ## §4. The section. -/

/-- The complaint about one option, before those about the rest. -/
theorem Complains.cons {α : Type} {P : α → Prop} {read : Except OptionIssue α}
    {field : OptionField} {rest : List OptionField} {complaints : List Complaint}
    (hok : ∀ a, read = .ok a ↔ P a) (hoffends : Offends client field ↔ ¬ ∃ a, P a)
    (hwrong : ∀ issue, read = .error issue → Wrong client field issue)
    (hrest : Complains client rest complaints) :
    Complains client (field :: rest) (complaint field read ++ complaints) := by
  cases read with
  | ok a =>
    refine .fine ?_ hrest
    intro hoffending
    exact hoffends.1 hoffending ⟨a, (hok a).1 rfl⟩
  | error issue =>
    refine .wrong (hoffends.2 ?_) (hwrong issue rfl) hrest
    rintro ⟨a, ha⟩
    cases (hok a).2 ha

/-- **A section is accepted exactly if every option is**, and is then worth its
    options. -/
theorem accepts_iff {v : Value} {o : Options} :
    validate v = .ok o ↔ ∃ client, v = .table client ∧ Acceptable client o := by
  rw [validate_ok_iff]
  refine exists_congr fun client => and_congr_right fun _ => ?_
  have happId : readAppId (given client .appId) = .ok o.appId ↔ Called client o.appId :=
    readAppId_given_iff
  have hpoll : readPollTimeout (given client .pollTimeout) = .ok o.pollTimeout ↔ _ :=
    readPollTimeout_ok_iff
  have hwait : readInitWait (given client .initWait) = .ok o.initWait ↔ _ :=
    readInitWait_ok_iff
  constructor
  · rintro ⟨ha, hp, hw⟩
    obtain ⟨hpoll, hpositive⟩ := hpoll.1 hp
    obtain ⟨hwait, hnonNegative⟩ := hwait.1 hw
    exact ⟨happId.1 ha, hpoll, hpositive, hwait, hnonNegative⟩
  · intro h
    exact ⟨happId.2 h.name, hpoll.2 ⟨h.pollTimeout, h.positive⟩,
      hwait.2 ⟨h.initWait, h.nonNegative⟩⟩

/-- Where there is no complaint, nothing offends. -/
theorem Complains.fine_of_nil {fields : List OptionField} (h : Complains client fields []) :
    ∀ field ∈ fields, ¬ Offends client field := by
  induction fields with
  | nil => simp
  | cons first rest ih =>
    cases h with
    | fine hfirst hrest =>
      intro field hfield
      rcases List.mem_cons.1 hfield with rfl | hfield
      · exact hfirst
      · exact ih hrest field hfield

/-- All that is said against a section. -/
def complaints (client : Table) : List Complaint :=
  complaint .appId (readAppId (given client .appId)) ++
    (complaint .pollTimeout (readPollTimeout (given client .pollTimeout)) ++
      (complaint .initWait (readInitWait (given client .initWait)) ++ []))

theorem complains_complaints (client : Table) :
    Complains client [.appId, .pollTimeout, .initWait] (complaints client) :=
  Complains.cons (fun _ => readAppId_given_iff) Iff.rfl (fun _ => wrong_of_readAppId) <|
    Complains.cons (fun _ => readPollTimeout_ok_iff) Iff.rfl
      (fun _ => wrong_of_readPollTimeout) <|
    Complains.cons (fun _ => readInitWait_ok_iff) Iff.rfl (fun _ => wrong_of_readInitWait) .done

theorem validate_error {f : Failure} (h : validate (.table client) = .error f) :
    f = .options (complaints client) := by
  unfold validate at h
  simp only at h
  split at h
  · cases h
  · obtain rfl := Except.error.inj h
    unfold complaints
    rw [List.append_nil, ← List.append_assoc]
    rfl

/-- A section that is refused is complained about. -/
theorem complaints_ne_nil {f : Failure} (h : validate (.table client) = .error f) :
    complaints client ≠ [] := by
  intro hnone
  have hcomplains := complains_complaints client
  rw [hnone] at hcomplains
  -- every option is fine, so the section would have been accepted
  have hfine := hcomplains.fine_of_nil
  obtain ⟨name, hname⟩ := not_not.1 (hfine .appId (by simp))
  obtain ⟨x, hpoll, hx⟩ := not_not.1 (hfine .pollTimeout (by simp))
  obtain ⟨y, hwait, hy⟩ := not_not.1 (hfine .initWait (by simp))
  have haccepted : validate (.table client) = .ok ⟨name, x, y⟩ :=
    accepts_iff.2 ⟨client, rfl, hname, hpoll, hx, hwait, hy⟩
  rw [haccepted] at h
  cases h

/-- Nothing else that a section holds matters. -/
theorem validate_congr {client' : Table} (h : ∀ field, given client' field = given client field) :
    validate (.table client') = validate (.table client) := by
  have happId := h .appId
  have hpollTimeout := h .pollTimeout
  have hinitWait := h .initWait
  unfold given at happId hpollTimeout hinitWait
  simp only [validate, happId, hpollTimeout, hinitWait]

/-- **What checking a section comes to.** -/
theorem validate_checked (v : Value) : Checked v (validate v) := by
  cases hresult : validate v with
  | ok o =>
    obtain ⟨client, htable, hacceptable⟩ := accepts_iff.1 hresult
    exact .accepted htable hacceptable
  | error f =>
    cases v with
    | table client =>
      obtain rfl := validate_error hresult
      exact .refused rfl (complaints_ne_nil hresult) (complains_complaints client)
    | _ =>
      obtain rfl := Except.error.inj hresult
      exact .noTable (by simp)

/-- There is no name, a poll would not wait, and the pause is no number. -/
example : validate (.table [("init_wait", .list []), ("poll_timeout", .text "-0.0")]) =
    .error (.options [.option .appId .missing, .option .pollTimeout .notPositive,
      .option .initWait .notNumber]) := by rfl

end

end Config.Options

end ChangeFeed
