import LaunchKit.Proofs.Text.Raw
import LaunchKit.Session

/-!
# Variables in a history of accesses

The guarded way into the environment and the guarded way out each look at the length of a value.
Where all values came in by the one, the other never hides one: the environment is the map of the
values that were stored last, and what is not stored leaves it as it was.

What is acceptable is stored, unless it holds a surrogate that stands for no byte: then the system
fails. Names that have the same bytes are names of one variable, and a value is read as its bytes
are.

Histories stand with the latest access first.

## Main definitions

* `Environment.IsAccepted`: what may be stored, and under which name.
* `Session.Access`, `Session.Access.after`: guarded accesses, and the session behind a history of
  them.
* `Session.Assignment`: what comes of storing.
* `Session.latest?`: the value that was stored last under a name.

## Main statements

* `Session.stored?_after`: the environment behind a history.
* `Session.accesses_history`: the answers and the records of accesses behind a history.
* `Session.exists_accepted_not_stored`: what is acceptable and not stored, or not read as it was.
-/
namespace LaunchKit

namespace Environment

/-- What may be stored: a name that the system can store, and a value within the limit. -/
structure IsAccepted (name value : RawText) : Prop where
  name_ne_nil : name ≠ []
  equals_not_mem : .character '=' ∉ name
  null_not_mem_name : .character '\x00' ∉ name
  length_le : value.length ≤ valueLimit
  null_not_mem_value : .character '\x00' ∉ value

theorem refusal?_eq_none_iff {name value : RawText} :
    refusal? name value = none ↔ IsAccepted name value := by
  rw [refusal?]
  constructor
  · intro h
    split at h
    · cases h
    · next hname =>
      split at h
      · cases h
      · next hlength =>
        split at h
        · cases h
        · next hvalue =>
          simp only [Bool.or_eq_true, List.isEmpty_iff, decide_eq_true_eq, not_or] at hname
          exact ⟨hname.1.1, hname.1.2, hname.2, by omega, hvalue⟩
  · rintro ⟨hne, hequals, hnull, hlength, hvalue⟩
    have hlength' : ¬valueLimit < value.length := by omega
    simp [hne, hequals, hnull, hlength', hvalue]

/-- Whether something may be stored can be found out. -/
instance (name value : RawText) : Decidable (IsAccepted name value) :=
  decidable_of_iff (refusal? name value = none) refusal?_eq_none_iff

/-- Of what may be stored, the system refuses only what has no encoding. -/
theorem put_of_isAccepted (environment : Environment) {name value : RawText}
    (h : IsAccepted name value) :
    environment.put name value = do
      let key ← name.encode.mapError .notEncoded
      let bytes ← value.encode.mapError .notEncoded
      return environment.store key bytes := by
  simp only [put, h.equals_not_mem, h.null_not_mem_name, h.null_not_mem_value, h.name_ne_nil,
    List.isEmpty_iff, or_self, if_false]

/-- What may be stored and has bytes is stored. -/
theorem assign_of_isEncodable (environment : Environment) {name value : RawText}
    (h : IsAccepted name value) (hname : name.IsEncodable) (hvalue : value.IsEncodable) :
    environment.assign name value =
      (.ofResult true, environment.store name.encoded value.encoded) := by
  have hput : environment.put name value = .ok (environment.store name.encoded value.encoded) := by
    rw [put_of_isAccepted environment h, RawText.encode_eq_ok_iff.mpr ⟨hname, rfl⟩,
      RawText.encode_eq_ok_iff.mpr ⟨hvalue, rfl⟩]
    rfl
  rw [assign, refusal?_eq_none_iff.mpr h, hput]

/-- A failure to encode the name, or else the value. -/
def IsDefect (name value : RawText) (defect : RawText.Unencodable) : Prop :=
  name.encode = .error defect ∨ name.IsEncodable ∧ value.encode = .error defect

/-- What may be stored and has no bytes is a failure of the system. -/
theorem assign_of_isDefect (environment : Environment) {name value : RawText}
    (h : IsAccepted name value) {defect : RawText.Unencodable}
    (hdefect : IsDefect name value defect) :
    environment.assign name value = (.ofFailure (.notEncoded defect), environment) := by
  have hput : environment.put name value = .error (.notEncoded defect) := by
    rw [put_of_isAccepted environment h]
    rcases hdefect with hname | ⟨hname, hvalue⟩
    · rw [hname]
      rfl
    · rw [RawText.encode_eq_ok_iff.mpr ⟨hname, rfl⟩, hvalue]
      rfl
  rw [assign, refusal?_eq_none_iff.mpr h, hput]
  rfl

/-- A refusal is one warning, and nothing else. -/
theorem assign_of_not_isAccepted (environment : Environment) {name value : RawText}
    (h : ¬IsAccepted name value) :
    ∃ refusal, environment.assign name value =
      (⟨.ok false, [warn (Refusal.message refusal)], []⟩, environment) := by
  cases hrefusal : refusal? name value with
  | none => exact absurd (refusal?_eq_none_iff.mp hrefusal) h
  | some refusal =>
    refine ⟨refusal, ?_⟩
    rw [assign, hrefusal]
    rfl

/-- A value within the limit is not hidden. -/
theorem read_eq_stored? {environment : Environment} {name : RawText} (hname : name.IsEncodable)
    (h : ∀ bytes, environment.stored? name.encoded = some bytes →
      (RawText.decode bytes).length ≤ valueLimit) :
    environment.read name =
      .ofResult ((environment.stored? name.encoded).map RawText.decode) := by
  rw [read, RawText.encode_eq_ok_iff.mpr ⟨hname, rfl⟩]
  cases hstored : environment.stored? name.encoded with
  | none => simp only [hstored, Option.map_none]
  | some bytes =>
    have hlength : ¬valueLimit < (RawText.decode bytes).length := Nat.not_lt.mpr (h bytes hstored)
    simp only [hstored, Option.map_some, if_neg hlength]

end Environment

namespace Session

open Environment

/-! ## Accesses -/

/-- What comes of storing a value under a name: the report, and the session behind it. -/
inductive Assignment (session : Session) (name value : RawText) : Report Bool × Session → Prop
  /-- Name and value are acceptable and have bytes. These are stored. -/
  | stored (haccepted : IsAccepted name value) (hname : name.IsEncodable)
      (hvalue : value.IsEncodable) :
      Assignment session name value
        (.ofResult true,
          { session with environment := session.environment.store name.encoded value.encoded })
  /-- Name or value are not acceptable. This is told in one warning, and nothing changes. -/
  | refused (hrefused : ¬IsAccepted name value) {record : Record} (hlevel : record.level = .warning)
      (hsource : record.source = .environment) :
      Assignment session name value
        (⟨.ok false, [record].filter session.log.shows, []⟩, session)
  /-- Name and value are acceptable, and one of them has no bytes. Nothing changes. -/
  | failed (haccepted : IsAccepted name value) {defect : RawText.Unencodable}
      (hdefect : IsDefect name value defect) :
      Assignment session name value (.ofFailure (.notEncoded defect), session)

/-- **What comes of storing.** -/
theorem assignment (session : Session) (name value : RawText) :
    Assignment session name value (assignVariable name value session) := by
  have hassign : assignVariable name value session =
      (session.log.filter (session.environment.assign name value).1,
        { session with environment := (session.environment.assign name value).2 }) := rfl
  by_cases haccepted : IsAccepted name value
  · cases hname : name.encode with
    | error defect =>
      have hdefect : IsDefect name value defect := Or.inl hname
      rw [hassign, assign_of_isDefect _ haccepted hdefect]
      exact .failed haccepted hdefect
    | ok key =>
      have hname := (RawText.encode_eq_ok_iff.mp hname).1
      cases hvalue : value.encode with
      | error defect =>
        have hdefect : IsDefect name value defect := Or.inr ⟨hname, hvalue⟩
        rw [hassign, assign_of_isDefect _ haccepted hdefect]
        exact .failed haccepted hdefect
      | ok bytes =>
        have hvalue := (RawText.encode_eq_ok_iff.mp hvalue).1
        rw [hassign, assign_of_isEncodable _ haccepted hname hvalue]
        exact .stored haccepted hname hvalue
  · obtain ⟨refusal, hrefusal⟩ := assign_of_not_isAccepted session.environment haccepted
    rw [hassign, hrefusal]
    exact .refused haccepted rfl rfl

/-- Storing answers with success when there is something to be stored. -/
theorem outcome_assignVariable_iff (session : Session) (name value : RawText) :
    (assignVariable name value session).1.outcome = .ok true ↔
      IsAccepted name value ∧ name.IsEncodable ∧ value.IsEncodable := by
  have hassignment := assignment session name value
  generalize assignVariable name value session = answer at hassignment
  cases hassignment with
  | stored haccepted hname hvalue => exact iff_of_true rfl ⟨haccepted, hname, hvalue⟩
  | refused hrefused => exact iff_of_false nofun fun hand => hrefused hand.1
  | @failed haccepted defect hdefect =>
    refine iff_of_false nofun fun ⟨_, hname, hvalue⟩ => ?_
    have hencode := RawText.encode_eq_ok_iff.mpr ⟨hname, rfl⟩
    have hencode' := RawText.encode_eq_ok_iff.mpr ⟨hvalue, rfl⟩
    rcases hdefect with herror | ⟨-, herror⟩
    · cases hencode.symm.trans herror
    · cases hencode'.symm.trans herror

/-- The guarded accesses to variables. -/
inductive Access where
  | assign (name value : RawText)
  | read (name : RawText)

namespace Access

/-- The session behind an access. -/
def next (session : Session) : Access → Session
  | assign name value => (assignVariable name value session).2
  | read name => (readVariable name session).2

/-- The value that an access stores under a name of these bytes, if it does. -/
def stored? (key : Bytes) : Access → Option RawText
  | assign name value =>
    if (IsAccepted name value ∧ name.IsEncodable ∧ value.IsEncodable) ∧ name.encoded = key then
      some value
    else none
  | read _ => none

/-- The session behind a history of accesses. -/
def after (start : Session) : List Access → Session
  | [] => start
  | access :: earlier => next (after start earlier) access

end Access

/-- The value that was stored last under a name, or under another one of the same bytes. -/
def latest? (name : RawText) (history : List Access) : Option RawText :=
  history.findSome? (Access.stored? name.encoded)

/-- One access changes nothing but the variable that it stores. -/
theorem stored?_next (session : Session) (access : Access) (key : Bytes) :
    (access.next session).environment.stored? key =
      ((access.stored? key).map RawText.encoded).or (session.environment.stored? key) := by
  cases access with
  | read name => rfl
  | assign name value =>
    rw [Access.next, Access.stored?]
    have hassignment := assignment session name value
    have houtcome := outcome_assignVariable_iff session name value
    generalize assignVariable name value session = answer at hassignment houtcome
    cases hassignment with
    | stored haccepted hname hvalue =>
      rw [stored?_store]
      by_cases hkey : name.encoded = key
      · simp [hkey, haccepted, hname, hvalue]
      · simp [hkey, Ne.symm hkey]
    | refused | failed =>
      -- Nothing is stored.
      rw [if_neg fun hand => nomatch houtcome.mpr hand.1]
      rfl

/-- **The environment behind a history** that starts from an empty one. -/
theorem stored?_after (start : Session) (history : List Access) (name : RawText) :
    (Access.after { start with environment := {} } history).environment.stored? name.encoded =
      (latest? name history).map RawText.encoded := by
  induction history with
  | nil => rfl
  | cons access earlier ih =>
    rw [Access.after, stored?_next, ih, latest?, latest?, List.findSome?_cons]
    cases access.stored? name.encoded <;> rfl

/-- What was stored is acceptable, under some name of the same bytes. -/
theorem exists_isAccepted_of_latest? {name value : RawText} {history : List Access}
    (h : latest? name history = some value) :
    ∃ other : RawText, other.encoded = name.encoded ∧ IsAccepted other value ∧
      value.IsEncodable := by
  obtain ⟨access, -, hstored⟩ := List.exists_of_findSome?_eq_some h
  cases access with
  | read other => cases hstored
  | assign other stored =>
    rw [Access.stored?] at hstored
    split at hstored
    · next hand =>
      obtain ⟨⟨haccepted, -, hvalue⟩, hname⟩ := hand
      cases hstored
      exact ⟨other, hname, haccepted, hvalue⟩
    · cases hstored

/-- What is read of a stored value is within the limit. -/
theorem length_settled_le_of_latest? {name value : RawText} {history : List Access}
    (h : latest? name history = some value) :
    value.length ≤ valueLimit ∧ value.settled.length ≤ valueLimit := by
  obtain ⟨other, -, haccepted, hvalue⟩ := exists_isAccepted_of_latest? h
  exact ⟨haccepted.length_le, Nat.le_trans (RawText.length_settled_le hvalue) haccepted.length_le⟩

/-! ## Any history -/

/-- **Accesses behind any history** that starts from an empty environment. Storing succeeds when
name and value are acceptable and have bytes; what is not acceptable is told in one warning, what
has no bytes is a failure, and both leave the session as it was. Reading a name answers what was
stored last under its bytes, as it comes back from the system, without a record, and leaves the
session as it was; a name without bytes is a failure. A text that was stored under a text is read as
it was, also by the settings. All that was stored is within the limit, before and after. -/
theorem accesses_history (start : Session) (history : List Access) :
    let session := Access.after { start with environment := {} } history
    (∀ name value, Assignment session name value (assignVariable name value session) ∧
      ((assignVariable name value session).1.outcome = .ok true ↔
        IsAccepted name value ∧ name.IsEncodable ∧ value.IsEncodable)) ∧
    (∀ name, name.IsEncodable → readVariable name session =
      (.ofResult ((latest? name history).map RawText.settled), session)) ∧
    (∀ name defect, name.encode = .error defect →
      readVariable name session = (.ofFailure (.notEncoded defect), session)) ∧
    (∀ name text : Text, latest? name history = some (text : RawText) →
      readVariable name session = (.ofResult (some (text : RawText)), session) ∧
        session.environment.get? name = some text) ∧
    ∀ name value, latest? name history = some value →
      value.length ≤ valueLimit ∧ value.settled.length ≤ valueLimit := by
  intro session
  have hstored (name : RawText) : session.environment.stored? name.encoded =
      (latest? name history).map RawText.encoded := stored?_after start history name
  have hrun (name : RawText) : readVariable name session =
      (session.log.filter (session.environment.read name), session) := rfl
  have hread (name : RawText) (hname : name.IsEncodable) : readVariable name session =
      (.ofResult ((latest? name history).map RawText.settled), session) := by
    have hshort (bytes : Bytes) (h : session.environment.stored? name.encoded = some bytes) :
        (RawText.decode bytes).length ≤ valueLimit := by
      rw [hstored, Option.map_eq_some_iff] at h
      obtain ⟨value, hlatest, rfl⟩ := h
      exact (length_settled_le_of_latest? hlatest).2
    rw [hrun, read_eq_stored? hname hshort, hstored, Option.map_map]
    rfl
  refine ⟨fun name value => ⟨assignment session name value, outcome_assignVariable_iff _ _ _⟩,
    hread, fun name defect hdefect => ?_, fun name text hlatest => ⟨?_, ?_⟩,
    fun name value => length_settled_le_of_latest?⟩
  · rw [hrun, Environment.read, hdefect]
    rfl
  · rw [hread name (RawText.isEncodable_text name), hlatest, Option.map_some, RawText.settled_text]
  · rw [Environment.get?, ← RawText.encoded_text, hstored, hlatest, Option.map_some,
      Option.map_some, RawText.encoded_text, RawText.decode_bytes, RawText.shown_text]

/-- A value with a null character does not replace the one that was accepted before it. -/
theorem accesses_history_refused :
    let history : List Access := [.assign "A" "x\x00y", .read "A", .assign "A" "1"]
    let session := Access.after {} history
    readVariable "A" session = (.ofResult (some ("1" : RawText)), session) := by
  intro history session
  have hlatest : latest? "A" history = some ("1" : RawText) := by
    decide +kernel
  exact ((accesses_history {} history).2.2.2.1 "A" "1" hlatest).1

/-- What is acceptable need not be stored: a surrogate may stand for no byte. Nor is it always read
as it was stored: surrogates may encode a character. -/
theorem exists_accepted_not_stored :
    ¬(∀ (session : Session) (name value : RawText), IsAccepted name value →
      (assignVariable name value session).1.outcome = .ok true ∧
        readVariable name (assignVariable name value session).2 =
          (.ofResult (some value), (assignVariable name value session).2)) ∧
    (IsAccepted "A" [.surrogate 0] ∧
      assignVariable "A" [.surrogate 0] {} =
        (.ofFailure (.saying (.named "UnicodeEncodeError")
          ("'utf-8' codec can't encode character '\\ud800' in position 0: ".toList ++
            "surrogates not allowed".toList)), {})) ∧
    IsAccepted "A" [.ofByte 0xC3, .ofByte 0xA9] ∧
      let session := (assignVariable "A" [.ofByte 0xC3, .ofByte 0xA9] {}).2
      readVariable "A" session = (.ofResult (some ("é" : RawText)), session) := by
  have haccepted : IsAccepted "A" [.surrogate 0] := by decide
  have hfailed : assignVariable "A" [.surrogate 0] {} =
      (.ofFailure (.saying (.named "UnicodeEncodeError")
        ("'utf-8' codec can't encode character '\\ud800' in position 0: ".toList ++
          "surrogates not allowed".toList)), {}) := rfl
  refine ⟨fun h => ?_, ⟨haccepted, hfailed⟩, by decide, rfl⟩
  have houtcome := (h {} "A" [.surrogate 0] haccepted).1
  rw [hfailed] at houtcome
  cases houtcome

end Session
end LaunchKit
