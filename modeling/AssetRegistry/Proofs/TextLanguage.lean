import AssetRegistry.Proofs.InstantText
import Mathlib.Computability.Language
import Mathlib.Data.List.TakeWhile

/-!
# Languages of texts

Sets of texts are made of small ones, side by side and one behind the other.  A reader takes a
text of a language off the front of its input and hands on what is left, which is what `Leaves`
says without the reader; so a language that is put together of others is read step by step
(`leaves_mul`).
-/

namespace AssetRegistry.Text

/-! ### Small languages -/

/-- The texts of one character, which is among some. -/
def oneOf (cs : List Char) : Language Char :=
  {w | ∃ c ∈ cs, w = [c]}

/-- Runs of digits, the empty one among them. -/
def digitRun : Language Char :=
  {w | ∀ c ∈ w, c.isDigit = true}

/-- Runs of one digit or more. -/
def digits : Language Char :=
  {w | w ∈ digitRun ∧ w ≠ []}

/-- Runs of blanks, the empty one among them. -/
def blankRun : Language Char :=
  {w | ∀ c ∈ w, isBlank c = true}

/-- Runs of one blank or more. -/
def blanks : Language Char :=
  {w | w ∈ blankRun ∧ w ≠ []}

/-- A text starts with one of a language, and a rest is left of it. -/
def Leaves (L : Language Char) (cs rest : List Char) : Prop :=
  ∃ w ∈ L, w ++ rest = cs

/-- A run of digits ends where a text starts. -/
def EndsDigits (rest : List Char) : Prop :=
  ∀ c ∈ rest.head?, c.isDigit = false

/-- There are no blanks in the texts of a language. -/
def Solid (L : Language Char) : Prop :=
  ∀ w ∈ L, ∀ c ∈ w, isBlank c = false

section Leaves

variable {L M : Language Char} {c : Char} {cs ds w rest : List Char}

/-- Nothing is left of a text of the language. -/
theorem leaves_nil : Leaves L cs [] ↔ cs ∈ L := by
  simp [Leaves]

/-- Nothing is taken by the empty text. -/
theorem leaves_one : Leaves 1 cs rest ↔ cs = rest := by
  simp [Leaves, Language.mem_one, eq_comm]

/-- What one of two languages leaves is left by either. -/
theorem leaves_add : Leaves (L + M) cs rest ↔ Leaves L cs rest ∨ Leaves M cs rest := by
  simp only [Leaves, Language.mem_add, or_and_right, exists_or]

/-- What is left by the first language is what the second one starts with. -/
theorem leaves_mul : Leaves (L * M) cs rest ↔ ∃ mid, Leaves L cs mid ∧ Leaves M mid rest := by
  constructor
  · rintro ⟨w, product, rfl⟩
    obtain ⟨u, first, v, second, rfl⟩ := Language.mem_mul.1 product
    exact ⟨v ++ rest, ⟨u, first, (List.append_assoc u v rest).symm⟩, v, second, rfl⟩
  · rintro ⟨_, ⟨u, first, rfl⟩, v, second, rfl⟩
    exact ⟨u ++ v, Language.append_mem_mul first second, List.append_assoc u v rest⟩

/-- A text of two languages in a row starts with the first and goes on with the second. -/
theorem mem_mul_iff : cs ∈ L * M ↔ ∃ mid, Leaves L cs mid ∧ mid ∈ M := by
  rw [← leaves_nil, leaves_mul]
  simp only [leaves_nil]

/-- A single character is taken off. -/
theorem leaves_oneOf : Leaves (oneOf ds) cs rest ↔ ∃ c ∈ ds, cs = c :: rest := by
  constructor
  · rintro ⟨_, ⟨c, among, rfl⟩, rfl⟩
    exact ⟨c, among, rfl⟩
  · rintro ⟨c, among, rfl⟩
    exact ⟨[c], ⟨c, among, rfl⟩, rfl⟩

/-- One character is taken off, and no other. -/
theorem leaves_char : Leaves (oneOf [c]) cs rest ↔ cs = c :: rest := by
  simp [leaves_oneOf]

/-- A character stands in front of a text of a language. -/
theorem mem_oneOf_mul : w ∈ oneOf ds * L ↔ ∃ c ∈ ds, ∃ v ∈ L, c :: v = w := by
  rw [mem_mul_iff]
  simp only [leaves_oneOf]
  constructor
  · rintro ⟨v, ⟨c, among, rfl⟩, member⟩
    exact ⟨c, among, v, member, rfl⟩
  · rintro ⟨c, among, v, member, rfl⟩
    exact ⟨v, ⟨c, among, rfl⟩, member⟩

/-- A text that has to start with a character goes on with the rest of the language. -/
theorem mem_char_mul : w ∈ oneOf [c] * L ↔ ∃ v ∈ L, c :: v = w := by
  simp [mem_oneOf_mul]

/-- A language of all texts that one of several languages has. -/
theorem leaves_exists {p : ι → Prop} {L : ι → Language Char} :
    Leaves {w | ∃ i, p i ∧ w ∈ L i} cs rest ↔ ∃ i, p i ∧ Leaves (L i) cs rest := by
  constructor
  · rintro ⟨w, ⟨i, holds, member⟩, rfl⟩
    exact ⟨i, holds, w, member, rfl⟩
  · rintro ⟨i, holds, w, member, rfl⟩
    exact ⟨w, ⟨i, holds, member⟩, rfl⟩

end Leaves

/-! ### Digits and blanks -/

section Runs

variable {L : Language Char} {c : Char} {cs w rest : List Char}

/-- No digit follows at the end. -/
theorem EndsDigits.nil : EndsDigits [] := by
  simp [EndsDigits]

/-- No digit follows if the next character is none. -/
theorem endsDigits_cons : EndsDigits (c :: rest) ↔ c.isDigit = false := by
  simp [EndsDigits]

/-- A blank is no digit. -/
theorem EndsDigits.of_isBlank (blank : isBlank c = true) : EndsDigits (c :: rest) := by
  rw [endsDigits_cons, Bool.eq_false_iff]
  intro digit
  rw [isBlank_of_isDigit digit] at blank
  cases blank

/-- A text is parted into a run of digits and what follows. -/
theorem spanDigits_parts (cs : List Char) :
    (spanDigits cs).1 ∈ digitRun ∧ (spanDigits cs).1 ++ (spanDigits cs).2 = cs :=
  ⟨fun _ member => List.mem_takeWhile_imp member, List.takeWhile_append_dropWhile⟩

/-- A run of blanks leaves what comes after all blanks. -/
theorem leaves_blankRun_dropBlank (cs : List Char) : Leaves blankRun cs (dropBlank cs) :=
  ⟨cs.takeWhile isBlank, fun _ member => List.mem_takeWhile_imp member,
    List.takeWhile_append_dropWhile⟩

/-- Blanks are dropped in front of a text that does not start with one. -/
theorem dropBlank_append (blank : w ∈ blankRun) (solid : ∀ c ∈ rest.head?, isBlank c = false) :
    dropBlank (w ++ rest) = rest := by
  rw [dropBlank, List.dropWhile_append_of_pos blank]
  cases rest with
  | nil => rfl
  | cons c rest => exact List.dropWhile_cons_of_neg (by simp [solid c rfl])

/-- Behind blanks comes what is left when blanks are dropped, if no text of the language starts
    with a blank. -/
theorem leaves_blankRun_mul
    (solid : ∀ w ∈ L, ∃ c v, w = c :: v ∧ isBlank c = false) :
    Leaves (blankRun * L) cs rest ↔ Leaves L (dropBlank cs) rest := by
  rw [leaves_mul]
  constructor
  · rintro ⟨_, ⟨b, blank, rfl⟩, w, member, rfl⟩
    obtain ⟨c, v, rfl, start⟩ := solid w member
    have dropped : dropBlank (b ++ (c :: v ++ rest)) = c :: v ++ rest :=
      dropBlank_append blank fun d head => by
        cases head
        exact start
    rw [dropped]
    exact ⟨c :: v, member, rfl⟩
  · exact fun leaves => ⟨dropBlank cs, leaves_blankRun_dropBlank cs, leaves⟩

/-- Trimming takes blanks off both ends. -/
theorem exists_trim_eq (cs : List Char) :
    ∃ before ∈ blankRun, ∃ after ∈ blankRun, before ++ trim cs ++ after = cs := by
  obtain ⟨before, blankBefore, front⟩ := leaves_blankRun_dropBlank cs
  obtain ⟨after, blankAfter, back⟩ := leaves_blankRun_dropBlank (dropBlank cs).reverse
  refine ⟨before, blankBefore, after.reverse, ?_, ?_⟩
  · exact fun c member => blankAfter c (List.mem_reverse.1 member)
  · have core : trim cs ++ after.reverse = dropBlank cs := by
      rw [trim, ← List.reverse_append, back, List.reverse_reverse]
    rw [List.append_assoc, core, front]

/-- A text without blanks is what blanks around it are trimmed to. -/
theorem trim_append {before after : List Char} (blankBefore : before ∈ blankRun)
    (blankAfter : after ∈ blankRun) (solid : ∀ c ∈ w, isBlank c = false) :
    trim (before ++ w ++ after) = w := by
  have reversed : after.reverse ∈ blankRun := fun c member =>
    blankAfter c (List.mem_reverse.1 member)
  have back : dropBlank (w ++ after).reverse = w.reverse := by
    rw [List.reverse_append]
    exact dropBlank_append reversed fun c head =>
      solid c (List.mem_reverse.1 (List.mem_of_mem_head? head))
  cases w with
  | nil =>
    -- There is nothing between the blanks, so that all of them are dropped at once.
    have all : before ++ [] ++ after ∈ blankRun := by
      intro c member
      simp only [List.append_nil, List.mem_append] at member
      exact member.elim (blankBefore c) (blankAfter c)
    have dropped : dropBlank (before ++ [] ++ after) = [] := List.dropWhile_eq_nil_iff.2 all
    rw [trim, dropped]
    rfl
  | cons d ds =>
    have front : dropBlank (before ++ (d :: ds) ++ after) = d :: ds ++ after := by
      rw [List.append_assoc]
      exact dropBlank_append blankBefore fun c head => by
        cases head
        exact solid d List.mem_cons_self
    rw [trim, front, back, List.reverse_reverse]

/-- A text is trimmed to one of a language without blanks if it is one with blanks around it. -/
theorem trim_mem_iff (solid : Solid L) :
    trim cs ∈ L ↔ cs ∈ blankRun * L * blankRun := by
  simp only [Language.mem_mul]
  constructor
  · intro member
    obtain ⟨before, blankBefore, after, blankAfter, same⟩ := exists_trim_eq cs
    exact ⟨before ++ trim cs, ⟨before, blankBefore, trim cs, member, rfl⟩, after, blankAfter, same⟩
  · rintro ⟨_, ⟨before, blankBefore, w, member, rfl⟩, after, blankAfter, rfl⟩
    rwa [trim_append blankBefore blankAfter (solid w member)]

/-! ### Languages without blanks -/

variable {M : Language Char}

/-- The empty text has no blank. -/
theorem Solid.one : Solid 1 := by
  intro w empty c member
  rw [(Language.mem_one w).1 empty] at member
  cases member

/-- A choice between texts without blanks has none. -/
theorem Solid.add (first : Solid L) (second : Solid M) : Solid (L + M) := fun w member =>
  ((Language.mem_add L M w).1 member).elim (first w) (second w)

/-- Texts without blanks in a row have none. -/
theorem Solid.mul (first : Solid L) (second : Solid M) : Solid (L * M) := by
  rintro _ product c member
  obtain ⟨u, former, v, latter, rfl⟩ := Language.mem_mul.1 product
  exact (List.mem_append.1 member).elim (first u former c) (second v latter c)

/-- A character that is no blank has none. -/
theorem Solid.oneOf {cs : List Char} (visible : cs.any isBlank = false) : Solid (oneOf cs) := by
  rintro _ ⟨c, among, rfl⟩ d member
  rw [List.mem_singleton.1 member]
  exact Bool.eq_false_iff.2 (List.any_eq_false.1 visible c among)

/-- Digits have no blank. -/
theorem Solid.digits : Solid digits := fun _ run c member => isBlank_of_isDigit (run.1 c member)

end Runs

end AssetRegistry.Text
