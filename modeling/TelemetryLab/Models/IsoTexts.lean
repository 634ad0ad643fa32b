import TelemetryLab.Models.CalendarTime

/-! How much of its text `ParseIsoTime` takes in (`time_resolution.h`).

The extraction stops where its pattern ends, and only a failure of the stream is asked for.
-/

set_option autoImplicit false
namespace TelemetryLab.Models

/-- What the stream still holds after a reading that does not fail. -/
def unread : List Format → List Char → Option (List Char)
  | [], input => some input
  | _ :: _, [] => none
  | .literal c :: format, e :: input => if c.toLower = e.toLower then unread format input else none
  | .directive directive :: format, e :: input =>
    match extractNum directive (e :: input) with
    | none => none
    | some (_, []) => some []
    | some (_, more) => unread format more

/-- The text that the pattern is held against. -/
def isoBody (iso : String) : List Char := (trimZ iso.toList).dropWhile isSpace

/-- A reading that does not fail is one that leaves something, if only nothing. -/
theorem unread_isSome_iff (format : List Format) (input : List Char) (tm : Tm) :
    (unread format input).isSome ↔ (getTime format input tm).2 = false := by
  induction format, input, tm using getTime.induct with
  | case1 input tm => simp [unread, getTime]
  | case2 format rest tm => simp [unread, getTime]
  | case3 tm c format e input same ih => simpa only [unread, getTime, if_pos same] using ih
  | case4 tm c format e input other => simp [unread, getTime, other]
  | case5 directive format e input tm failed => simp [unread, getTime, failed]
  | case6 directive format e input tm value read => simp [unread, getTime, read]
  | case7 directive format e input tm value more some_ read ih =>
    rw [unread, getTime, read]
    cases more with
    | nil => exact absurd rfl some_
    | cons c more => exact ih

/-! ## A complete date and time at the front of a text -/

def valueOf (digits : List Char) : Nat := ofDigits (digits.map fun c => c.toNat - 48)

/-- A numeral of a field, as long as it goes. -/
structure Numeral (directive : Directive) (digits following : List Char) : Prop where
  nonempty : digits ≠ []
  numeric : ∀ c ∈ digits, isDigit c = true
  short : digits.length ≤ directive.width
  whole : digits.length = directive.width ∨ ∀ c ∈ following.head?, isDigit c = false
  range : directive.range.1 ≤ valueOf digits ∧ valueOf digits ≤ directive.range.2

/-- What may stand in front of a numeral: one character of white space before the day. -/
inductive Leads : Directive → List Char → Prop where
  | nothing (directive : Directive) : Leads directive []
  | space {c : Char} : isSpace c = true → Leads .d [c]

/-- The text starts with all that the pattern asks for, and goes on with the rest. -/
inductive Reads : List Format → List Char → Tm → Tm → List Char → Prop where
  | done (rest : List Char) (tm : Tm) : Reads [] rest tm tm rest
  | literal {c e : Char} {format : List Format} {input rest : List Char} {tm final : Tm} : c.toLower = e.toLower →
      Reads format input tm final rest → Reads (.literal c :: format) (e :: input) tm final rest
  | number {directive : Directive} {lead digits input rest : List Char} {format : List Format} {tm final : Tm} :
      Leads directive lead → Numeral directive digits input →
      Reads format input (directive.store tm (valueOf digits)) final rest →
      Reads (.directive directive :: format) (lead ++ (digits ++ input)) tm final rest

theorem takeDigits_spec (width : Nat) (input : List Char) : ∃ front more, input = front ++ more ∧
    takeDigits width input = (front.map (fun c => c.toNat - 48), more) ∧ (∀ c ∈ front, isDigit c = true) ∧
    front.length ≤ width ∧ (front.length = width ∨ ∀ c ∈ more.head?, isDigit c = false) := by
  induction width generalizing input with
  | zero => exact ⟨[], input, rfl, by cases input <;> rfl, by simp, le_rfl, .inl rfl⟩
  | succ width ih =>
    cases input with
    | nil => exact ⟨[], [], rfl, rfl, by simp, Nat.zero_le _, .inr (by simp)⟩
    | cons c rest =>
      by_cases digit : isDigit c = true
      · obtain ⟨front, more, parts, taken, digits, short, whole⟩ := ih rest
        refine ⟨c :: front, more, by rw [parts]; rfl, ?_, ?_, Nat.succ_le_succ short, ?_⟩
        · simp only [takeDigits, if_pos digit, taken, List.map_cons]
        · simpa [digit] using digits
        · exact whole.imp (congrArg Nat.succ) id
      · refine ⟨[], c :: rest, rfl, by simp [takeDigits, digit], by simp, Nat.zero_le _, .inr ?_⟩
        simpa using digit

theorem takeDigits_append {width : Nat} {front more : List Char} (digits : ∀ c ∈ front, isDigit c = true)
    (short : front.length ≤ width) (whole : front.length = width ∨ ∀ c ∈ more.head?, isDigit c = false) :
    takeDigits width (front ++ more) = (front.map (fun c => c.toNat - 48), more) := by
  induction width generalizing front with
  | zero =>
    have none : front = [] := List.length_eq_zero_iff.mp (Nat.le_zero.mp short)
    subst none
    cases more <;> rfl
  | succ width ih =>
    cases front with
    | nil =>
      cases more with
      | nil => rfl
      | cons c rest =>
        have other : isDigit c = false := by simpa using whole
        simp [takeDigits, other]
    | cons c front =>
      have later : takeDigits width (front ++ more) = (front.map (fun c => c.toNat - 48), more) :=
        ih (fun d member => digits d (List.mem_cons_of_mem _ member)) (Nat.le_of_succ_le_succ short)
          (whole.imp Nat.succ.inj id)
      rw [List.cons_append, takeDigits, if_pos (digits c List.mem_cons_self), later]
      rfl

theorem isSpace_of_isDigit {c : Char} (digit : isDigit c = true) : isSpace c = false := by
  have other : c ≠ ' ' := by
    rintro rfl
    cases digit
  rw [isDigit, decide_eq_true_eq] at digit
  rw [isSpace, decide_eq_false_iff_not, not_or]
  exact ⟨other, by omega⟩

/-- What is skipped may stand in front of a numeral. -/
theorem leads_skip (directive : Directive) (input : List Char) :
    ∃ lead, Leads directive lead ∧ input = lead ++ directive.skip input := by
  cases directive with
  | d =>
    cases input with
    | nil => exact ⟨[], .nothing _, rfl⟩
    | cons c input =>
      cases space : isSpace c with
      | true => exact ⟨[c], .space space, by simp [Directive.skip, space]⟩
      | false => exact ⟨[], .nothing _, by simp [Directive.skip, space]⟩
  | Y | m | H | M | S => exact ⟨[], .nothing _, rfl⟩

/-- A numeral itself is not skipped. -/
theorem Leads.skip_eq {directive : Directive} {lead digits more : List Char} (leads : Leads directive lead)
    (nonempty : digits ≠ []) (numeric : ∀ c ∈ digits, isDigit c = true) :
    directive.skip (lead ++ (digits ++ more)) = digits ++ more := by
  cases leads with
  | space space => simp [Directive.skip, space]
  | nothing =>
    cases directive with
    | d =>
      cases digits with
      | nil => exact absurd rfl nonempty
      | cons c digits => simp [Directive.skip, isSpace_of_isDigit (numeric c List.mem_cons_self)]
    | Y | m | H | M | S => rfl

/-- A field is read if and only if a numeral of it is in front. -/
theorem extractNum_eq_some {directive : Directive} {input more : List Char} {value : Nat} :
    extractNum directive input = some (value, more) ↔ ∃ lead digits, input = lead ++ (digits ++ more) ∧
      Leads directive lead ∧ Numeral directive digits more ∧ value = valueOf digits := by
  constructor
  · intro read
    obtain ⟨lead, leads, skipped⟩ := leads_skip directive input
    obtain ⟨front, rest, parts, taken, digits, short, whole⟩ := takeDigits_spec directive.width (directive.skip input)
    simp only [extractNum, taken] at read
    split at read
    · cases read
    next accepted =>
      cases read
      rw [not_or, not_or, not_lt, not_lt, List.map_eq_nil_iff] at accepted
      exact ⟨lead, front, skipped.trans (congrArg (lead ++ ·) parts), leads,
        ⟨accepted.1, digits, short, whole, accepted.2⟩, rfl⟩
  · rintro ⟨lead, digits, rfl, leads, numeral, rfl⟩
    have taken := takeDigits_append numeral.numeric numeral.short numeral.whole
    simp only [extractNum, leads.skip_eq numeral.nonempty numeral.numeric, taken]
    rw [if_neg]
    · rfl
    · rw [not_or, not_or, not_lt, not_lt, List.map_eq_nil_iff]
      exact ⟨numeral.nonempty, numeral.range⟩

/-- A field that is not the last of its text is read over. -/
theorem getTime_field {directive : Directive} {lead digits input : List Char} (leads : Leads directive lead)
    (numeral : Numeral directive digits input) (some_ : input ≠ []) (format : List Format) (tm : Tm) :
    getTime (.directive directive :: format) (lead ++ (digits ++ input)) tm =
        getTime format input (directive.store tm (valueOf digits)) ∧
      unread (.directive directive :: format) (lead ++ (digits ++ input)) = unread format input := by
  have read := extractNum_eq_some.mpr ⟨lead, digits, rfl, leads, numeral, rfl⟩
  have front : lead ++ (digits ++ input) ≠ [] := by simp [some_]
  obtain ⟨e, tail, shape⟩ := List.exists_cons_of_ne_nil front
  obtain ⟨c, rest, rfl⟩ := List.exists_cons_of_ne_nil some_
  rw [shape] at read ⊢
  rw [getTime, unread, read]
  exact ⟨rfl, rfl⟩

theorem getTime_lastField {directive : Directive} {lead digits : List Char} (leads : Leads directive lead)
    (numeral : Numeral directive digits []) (format : List Format) (tm : Tm) :
    getTime (.directive directive :: format) (lead ++ (digits ++ [])) tm = (directive.store tm (valueOf digits), false) ∧
      unread (.directive directive :: format) (lead ++ (digits ++ [])) = some [] := by
  have read := extractNum_eq_some.mpr ⟨lead, digits, rfl, leads, numeral, rfl⟩
  have front : lead ++ (digits ++ []) ≠ [] := by simp [numeral.nonempty]
  obtain ⟨e, tail, shape⟩ := List.exists_cons_of_ne_nil front
  rw [shape] at read ⊢
  rw [getTime, unread, read]
  exact ⟨rfl, rfl⟩

section Readings

variable {format : List Format} {input rest : List Char} {tm final : Tm}

/-- Past the end of its text a pattern asks for nothing. -/
theorem Reads.of_nil (reads : Reads format [] tm final rest) : format = [] ∧ final = tm ∧ rest = [] := by
  generalize shape : ([] : List Char) = text at reads
  cases reads with
  | done =>
    cases shape
    exact ⟨rfl, rfl, rfl⟩
  | literal => cases shape
  | number _ numeral =>
    have front := (List.append_eq_nil_iff.mp (List.append_eq_nil_iff.mp shape.symm).2).1
    exact absurd front numeral.nonempty

/-- A complete date and time is read, whatever follows it. -/
theorem Reads.getTime_eq (reads : Reads format input tm final rest) :
    getTime format input tm = (final, false) ∧ unread format input = some rest := by
  induction reads with
  | done rest tm => exact ⟨by rw [getTime], by rw [unread]⟩
  | literal same _ ih => exact ⟨by rw [getTime, if_pos same, ih.1], by rw [unread, if_pos same, ih.2]⟩
  | @number directive lead digits input rest format tm final leads numeral later ih =>
    rcases eq_or_ne input [] with rfl | some_
    · obtain ⟨-, rfl, rfl⟩ := later.of_nil
      exact getTime_lastField leads numeral format tm
    · obtain ⟨read, left⟩ := getTime_field leads numeral some_ format tm
      exact ⟨read.trans ih.1, left.trans ih.2⟩

/-- What is left, if anything, is left behind a complete date and time. -/
theorem reads_of_unread (left : unread format input = some rest) (more : rest ≠ []) (tm : Tm) :
    ∃ final, Reads format input tm final rest := by
  induction format, input, tm using getTime.induct with
  | case1 input tm =>
    cases left
    exact ⟨tm, .done _ tm⟩
  | case2 format rest tm => cases left
  | case3 tm c format e input same ih =>
    rw [unread, if_pos same] at left
    obtain ⟨final, reads⟩ := ih left
    exact ⟨final, .literal same reads⟩
  | case4 tm c format e input other =>
    rw [unread, if_neg other] at left
    cases left
  | case5 directive format e input tm failed =>
    rw [unread, failed] at left
    cases left
  | case6 directive format e input tm value read =>
    rw [unread, read] at left
    cases left
    exact absurd rfl more
  | case7 directive format e input tm value following some_ read ih =>
    have later : unread format following = some rest := by
      rw [unread, read] at left
      cases following with
      | nil => exact absurd rfl some_
      | cons c following => exact left
    obtain ⟨lead, digits, parts, leads, numeral, rfl⟩ := extractNum_eq_some.mp read
    obtain ⟨final, reads⟩ := ih later
    rw [parts]
    exact ⟨final, .number leads numeral reads⟩

end Readings

/-! ## What is accepted -/

section Accepted

variable {iso : String} {seconds : Int}

theorem parseIsoTime_eq_some : parseIsoTime iso = some seconds ↔
    (getTime isoFormat (isoBody iso) {}).2 = false ∧ timegm (getTime isoFormat (isoBody iso) {}).1 = seconds := by
  rw [parseIsoTime]
  split
  next empty =>
    subst empty
    simp [isoBody, trimZ, isoFormat, getTime]
  next =>
    have body : inputTime isoFormat (trimZ iso.toList) = getTime isoFormat (isoBody iso) {} := rfl
    rw [body]
    rcases getTime isoFormat (isoBody iso) {} with ⟨tm, _ | _⟩
    · simp
    · simp

/-- A text that goes on after its date and time is read as if it ended there. -/
theorem parseIsoTime_of_reads {final : Tm} {rest : List Char} (reads : Reads isoFormat (isoBody iso) {} final rest) :
    parseIsoTime iso = some (timegm final) := by
  rw [parseIsoTime_eq_some, reads.getTime_eq.1]
  exact ⟨rfl, rfl⟩

end Accepted

/-- All of an accepted text is taken in if and only if it does not go on after a complete date and time. -/
theorem parseIsoTime_consumes_iff (iso : String) :
    (∀ seconds, parseIsoTime iso = some seconds → unread isoFormat (isoBody iso) = some []) ↔
      ¬ ∃ final rest, rest ≠ [] ∧ Reads isoFormat (isoBody iso) {} final rest := by
  constructor
  · rintro consumed ⟨final, rest, more, reads⟩
    have all := consumed _ (parseIsoTime_of_reads reads)
    rw [reads.getTime_eq.2] at all
    exact more (Option.some.inj all)
  · intro ends seconds accepted
    have passed := (parseIsoTime_eq_some.mp accepted).1
    obtain ⟨rest, left⟩ := Option.isSome_iff_exists.mp ((unread_isSome_iff isoFormat _ {}).mpr passed)
    rw [left]
    rcases eq_or_ne rest [] with rfl | more
    · rfl
    · obtain ⟨final, reads⟩ := reads_of_unread left more {}
      exact absurd ⟨final, rest, more, reads⟩ ends

/-- An offset from UTC is left unread, and the time is that without it. -/
theorem offset_unread : ¬ ∀ iso seconds, parseIsoTime iso = some seconds → unread isoFormat (isoBody iso) = some [] := by
  intro consumed
  have all := consumed "2026-01-01T00:00:00+05:30" 1767225600 (by decide +kernel)
  revert all
  decide +kernel

end TelemetryLab.Models
