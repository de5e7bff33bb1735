import AssetRegistry.Proofs.Reading
import Mathlib.Algebra.GroupWithZero.Nat

/-!
# The forms of fields

What the fields of requests have to look like, in characters, and that each check passes
exactly the texts of its form.  The checks of identifiers, asset ids and file extensions
count bytes.  It comes to the same as counting characters, for they let through only
characters of one byte.
-/

namespace AssetRegistry.Validation

/-! ### Classes of characters -/

/-- A letter of `a-z`. -/
def IsLower (c : Char) : Prop :=
  'a' ≤ c ∧ c ≤ 'z'

/-- A letter of `A-Z`. -/
def IsUpper (c : Char) : Prop :=
  'A' ≤ c ∧ c ≤ 'Z'

/-- A digit of `0-9`. -/
def IsDigit (c : Char) : Prop :=
  '0' ≤ c ∧ c ≤ '9'

/-- A character of `[a-z0-9]`. -/
def IsExtensionCharacter (c : Char) : Prop :=
  IsLower c ∨ IsDigit c

/-- A character of `[a-z0-9-_]`. -/
def IsIdentifierCharacter (c : Char) : Prop :=
  IsExtensionCharacter c ∨ c = '-' ∨ c = '_'

/-- A character of `[A-Za-z0-9-_.]`. -/
def IsAssetIdCharacter (c : Char) : Prop :=
  IsUpper c ∨ IsLower c ∨ IsDigit c ∨ c = '-' ∨ c = '_' ∨ c = '.'

/-- A character of `[A-Za-z0-9_]`. -/
def IsAssetIdStart (c : Char) : Prop :=
  IsUpper c ∨ IsLower c ∨ IsDigit c ∨ c = '_'

section Characters

variable {c : Char}

/-- Lower letters are those from a to z. -/
theorem isLowerLetter_iff : isLowerLetter c = true ↔ IsLower c := by
  simp [isLowerLetter, IsLower]

/-- Digits are those from 0 to 9. -/
theorem isDigit_iff : c.isDigit = true ↔ IsDigit c := by
  simp [Char.isDigit, IsDigit, Char.le_def]

/-- Extensions are made of lower letters and digits. -/
theorem isLowerAlphanumeric_iff : isLowerAlphanumeric c = true ↔ IsExtensionCharacter c := by
  simp [isLowerAlphanumeric, IsExtensionCharacter, isLowerLetter_iff, isDigit_iff]

/-- Ids of assets may have letters, digits and three signs. -/
theorem isAssetIdCharacter_iff : isAssetIdCharacter c = true ↔ IsAssetIdCharacter c := by
  have upper : c.isUpper = true ↔ IsUpper c := by
    show decide (c.val ≥ 'A'.val ∧ c.val ≤ 'Z'.val) = true ↔ _
    simp [IsUpper, Char.le_def]
  have lower : c.isLower = true ↔ IsLower c := by
    show (decide (c.val ≥ 'a'.val) && decide (c.val ≤ 'z'.val)) = true ↔ _
    simp [IsLower, Char.le_def]
  have classes : c.isAlphanum = (c.isUpper || c.isLower || c.isDigit) := rfl
  simp [isAssetIdCharacter, IsAssetIdCharacter, classes, upper, lower, isDigit_iff, or_assoc]

/-- An asset id starts with a character of its class that is neither a point nor a hyphen. -/
theorem isAssetIdStart_iff : IsAssetIdStart c ↔ IsAssetIdCharacter c ∧ c ≠ '.' ∧ c ≠ '-' := by
  have point : ¬ IsAssetIdStart '.' := by
    unfold IsAssetIdStart IsUpper IsLower IsDigit
    decide
  have hyphen : ¬ IsAssetIdStart '-' := by
    unfold IsAssetIdStart IsUpper IsLower IsDigit
    decide
  -- The two classes differ by the point and the hyphen.
  constructor
  · intro start
    refine ⟨?_, ?_, ?_⟩
    · rcases start with upper | lower | digit | underscore
      · exact .inl upper
      · exact .inr (.inl lower)
      · exact .inr (.inr (.inl digit))
      · exact .inr (.inr (.inr (.inr (.inl underscore))))
    · rintro rfl
      exact point start
    · rintro rfl
      exact hyphen start
  · rintro ⟨upper | lower | digit | rfl | underscore | rfl, noPoint, noHyphen⟩
    · exact .inl upper
    · exact .inr (.inl lower)
    · exact .inr (.inr (.inl digit))
    · exact absurd rfl noHyphen
    · exact .inr (.inr (.inr underscore))
    · exact absurd rfl noPoint

/-- A character of an asset id takes one byte. -/
theorem IsAssetIdCharacter.utf8Size_eq (h : IsAssetIdCharacter c) : c.utf8Size = 1 := by
  have ascii : c.toNat < 128 := by
    rcases h with ⟨_, high⟩ | ⟨_, high⟩ | ⟨_, high⟩ | rfl | rfl | rfl
    · exact Nat.lt_of_le_of_lt (show c.toNat ≤ 'Z'.toNat from high) (by decide)
    · exact Nat.lt_of_le_of_lt (show c.toNat ≤ 'z'.toNat from high) (by decide)
    · exact Nat.lt_of_le_of_lt (show c.toNat ≤ '9'.toNat from high) (by decide)
    all_goals decide
  rw [Char.utf8Size_eq_one_iff, UInt32.le_iff_toNat_le]
  show c.toNat ≤ 127
  omega

/-- What identifiers may have, ids of assets may have too. -/
theorem IsIdentifierCharacter.isAssetIdCharacter (h : IsIdentifierCharacter c) :
    IsAssetIdCharacter c := by
  rcases h with (lower | digit) | hyphen | underscore
  · exact .inr (.inl lower)
  · exact .inr (.inr (.inl digit))
  · exact .inr (.inr (.inr (.inl hyphen)))
  · exact .inr (.inr (.inr (.inr (.inl underscore))))

end Characters

/-! ### Bytes and characters -/

/-- A text has as many bytes as its characters take. -/
theorem utf8ByteSize_eq_sum (s : String) :
    s.utf8ByteSize = (s.toList.map Char.utf8Size).sum := by
  have bytes (cs : List Char) : (String.ofList cs).utf8ByteSize = (cs.map Char.utf8Size).sum := by
    induction cs with
    | nil => rfl
    | cons c cs ih =>
      -- A text is put together from its characters, and bytes add up.
      have split : String.ofList (c :: cs) = String.singleton c ++ String.ofList cs := by
        rw [String.singleton_eq_ofList, ← String.ofList_append]
        rfl
      rw [split, String.utf8ByteSize_append, ih, String.utf8ByteSize_singleton]
      rfl
  rw [← bytes, String.ofList_toList]

/-- Where every character takes one byte, there are as many bytes as characters. -/
theorem utf8ByteSize_eq_length {s : String} (ascii : ∀ c ∈ s.toList, c.utf8Size = 1) :
    s.utf8ByteSize = s.length := by
  have ones : s.toList.map Char.utf8Size = s.toList.map fun _ => 1 :=
    List.map_congr_left ascii
  rw [utf8ByteSize_eq_sum, ones, List.map_const', List.sum_replicate_nat, String.length_toList,
    Nat.mul_one]

/-! ### Identifiers and file extensions -/

/-- A text that is a character of one class, and then between `least` and `most`
    characters of another one: a match of `^[first][rest]{least,most}$`. -/
def Matches (first rest : Char → Prop) (least most : Nat) (s : String) : Prop :=
  ∃ c cs, s.toList = c :: cs ∧ first c ∧ (∀ d ∈ cs, rest d) ∧ least ≤ cs.length ∧
    cs.length ≤ most

/-- A match of `^[a-z][-_a-z0-9]{3,63}$`. -/
def IsIdentifier (s : String) : Prop :=
  Matches IsLower IsIdentifierCharacter 3 63 s

/-- A match of `^\.[a-z0-9]{1,7}$`. -/
def IsFileExtension (s : String) : Prop :=
  Matches (· = '.') IsExtensionCharacter 1 7 s

/-- An identifier, or the name of the reserved database. -/
def IsDatabaseId (s : String) : Prop :=
  s = globalDatabaseId ∨ IsIdentifier s

section Checks

variable {field value : String}

/-- A text passes as an identifier where it is one. -/
theorem isIdentifier_iff {s : String} : isIdentifier s = true ↔ IsIdentifier s := by
  unfold isIdentifier IsIdentifier Matches
  cases text : s.toList with
  | nil => simp
  | cons c cs =>
    have checks : (isLowerLetter c &&
        cs.all (fun c => isLowerAlphanumeric c || c = '-' || c = '_') &&
        4 ≤ s.utf8ByteSize && s.utf8ByteSize ≤ 64) = true ↔
          (IsLower c ∧ ∀ d ∈ cs, IsIdentifierCharacter d) ∧
            4 ≤ s.utf8ByteSize ∧ s.utf8ByteSize ≤ 64 := by
      simp [isLowerLetter_iff, isLowerAlphanumeric_iff, IsIdentifierCharacter, or_assoc, and_assoc]
    -- What passes the checks of the characters has one byte for each of them.
    have bytes (first : IsLower c) (rest : ∀ d ∈ cs, IsIdentifierCharacter d) :
        s.utf8ByteSize = cs.length + 1 := by
      rw [utf8ByteSize_eq_length, ← String.length_toList, text, List.length_cons]
      have others : ∀ d ∈ cs, d.utf8Size = 1 := by
        intro d member
        exact (rest d member).isAssetIdCharacter.utf8Size_eq
      rw [text]
      exact List.forall_mem_cons.2 ⟨IsAssetIdCharacter.utf8Size_eq (.inr (.inl first)), others⟩
    rw [checks]
    constructor
    · rintro ⟨⟨first, rest⟩, length⟩
      rw [bytes first rest] at length
      exact ⟨c, cs, rfl, first, rest, by omega, by omega⟩
    · rintro ⟨_, _, same, first, rest, least, most⟩
      cases same
      exact ⟨⟨first, rest⟩, by rw [bytes first rest]; omega⟩

/-- A text passes as an extension where it is one. -/
theorem isFileExtension_iff {s : String} : isFileExtension s = true ↔ IsFileExtension s := by
  unfold isFileExtension IsFileExtension Matches
  split
  · rename_i rest text
    have bytes (characters : ∀ d ∈ rest, IsExtensionCharacter d) :
        (String.ofList rest).utf8ByteSize = rest.length := by
      have same : (String.ofList rest).toList = rest := String.toList_ofList
      rw [utf8ByteSize_eq_length, ← String.length_toList, same]
      rw [same]
      intro d member
      have inIdentifiers : IsIdentifierCharacter d := .inl (characters d member)
      exact inIdentifiers.isAssetIdCharacter.utf8Size_eq
    simp only [Bool.and_eq_true, decide_eq_true_eq, List.all_eq_true, isLowerAlphanumeric_iff]
    constructor
    · rintro ⟨length, characters⟩
      rw [bytes characters] at length
      exact ⟨'.', rest, text, rfl, characters, length⟩
    · rintro ⟨_, _, same, _, characters, length⟩
      rw [text] at same
      cases same
      rw [bytes characters]
      exact ⟨length, characters⟩
  · -- A text that starts otherwise has no match.
    rename_i other
    simp only [Bool.false_eq_true, false_iff]
    rintro ⟨c, cs, text, rfl, _⟩
    exact other cs text

/-- An identifier passes, and nothing else. -/
theorem identifier_eq_ok {u : Unit} : identifier field value = .ok u ↔ IsIdentifier value := by
  rw [identifier, require_eq_ok, isIdentifier_iff]

/-- The id of a database passes, and nothing else. -/
theorem databaseId_eq_ok {u : Unit} : databaseId field value = .ok u ↔ IsDatabaseId value := by
  unfold databaseId IsDatabaseId
  by_cases reserved : value = globalDatabaseId <;> simp [reserved, identifier_eq_ok]

/-- A file extension passes, and nothing else. -/
theorem fileExtension_eq_ok {u : Unit} :
    fileExtension field value = .ok u ↔ IsFileExtension value := by
  rw [fileExtension, require_eq_ok, isFileExtension_iff]

/-! ### Asset ids -/

/-- An asset id: 1 to 256 characters of its class that do not start with a point or a
    hyphen. -/
structure IsAssetId (s : String) : Prop where
  characters : ∀ c ∈ s.toList, IsAssetIdCharacter c
  start : s.toList.head? ≠ some '.' ∧ s.toList.head? ≠ some '-'
  length : 1 ≤ s.length ∧ s.length ≤ 256

/-- The id of an asset passes, and nothing else. -/
theorem assetId_eq_ok {u : Unit} : assetId field value = .ok u ↔ IsAssetId value := by
  have checks : assetId field value = .ok u ↔
      (1 ≤ value.utf8ByteSize ∧ value.utf8ByteSize ≤ 256) ∧
        (value.toList.head? ≠ some '.' ∧ value.toList.head? ≠ some '-') ∧
        ∀ c ∈ value.toList, IsAssetIdCharacter c := by
    have limit : maxTextLength = 256 := rfl
    simp [assetId, bind_eq_ok, require_eq_ok, isAssetIdCharacter_iff, ← limit]
  rw [checks]
  constructor
  · rintro ⟨bytes, start, characters⟩
    -- All characters that pass have one byte, so that bytes count as characters.
    rw [utf8ByteSize_eq_length fun c member => (characters c member).utf8Size_eq] at bytes
    exact ⟨characters, start, bytes⟩
  · rintro ⟨characters, start, length⟩
    rw [utf8ByteSize_eq_length fun c member => (characters c member).utf8Size_eq]
    exact ⟨length, start, characters⟩

/-- An asset id is a match of `^[A-Za-z0-9_][A-Za-z0-9_.-]{0,255}$`. -/
theorem isAssetId_iff_matches {s : String} :
    IsAssetId s ↔ Matches IsAssetIdStart IsAssetIdCharacter 0 255 s := by
  unfold Matches
  constructor
  · rintro ⟨characters, start, least, most⟩
    rw [← String.length_toList] at least most
    -- The length is checked on the whole text, and in the pattern on what follows the first
    -- character.
    cases text : s.toList with
    | nil => simp [text] at least
    | cons c cs =>
      rw [text] at characters start most
      obtain ⟨first, rest⟩ := List.forall_mem_cons.1 characters
      rw [List.length_cons] at most
      exact ⟨c, cs, rfl, isAssetIdStart_iff.2 ⟨first, by simpa using start⟩, rest,
        Nat.zero_le _, by omega⟩
  · rintro ⟨c, cs, text, first, rest, -, most⟩
    obtain ⟨first, start⟩ := isAssetIdStart_iff.1 first
    refine ⟨?_, ?_, ?_⟩
    · rw [text]
      exact List.forall_mem_cons.2 ⟨first, rest⟩
    · rw [text]
      simpa using start
    · rw [← String.length_toList, text, List.length_cons]
      omega

/-! ### Texts, metadata keys and time limits -/

/-- A text passes up to its length in characters. -/
theorem freeText_eq_ok {u : Unit} : freeText field value = .ok u ↔ value.length ≤ 256 := by
  rw [freeText, require_eq_ok, decide_eq_true_eq, maxTextLength]

/-- The checks of ids, file extensions and texts pass exactly the texts that match their
    patterns as a whole, with all lengths in characters. -/
theorem field_checks_pass_patterns (field value : String) :
    (identifier field value = .ok () ↔ Matches IsLower IsIdentifierCharacter 3 63 value) ∧
      (databaseId field value = .ok () ↔
        value = "GLOBAL" ∨ Matches IsLower IsIdentifierCharacter 3 63 value) ∧
      (assetId field value = .ok () ↔ Matches IsAssetIdStart IsAssetIdCharacter 0 255 value) ∧
      (fileExtension field value = .ok () ↔ Matches (· = '.') IsExtensionCharacter 1 7 value) ∧
      (freeText field value = .ok () ↔ value.length ≤ 256) :=
  ⟨identifier_eq_ok, databaseId_eq_ok, assetId_eq_ok.trans isAssetId_iff_matches,
    fileExtension_eq_ok, freeText_eq_ok⟩

/-- A key of metadata passes up to its length in characters, unless it is empty. -/
theorem metadataKey_eq_ok {u : Unit} :
    metadataKey value = .ok u ↔ 1 ≤ value.length ∧ value.length ≤ 256 := by
  rw [metadataKey, require_eq_ok, Bool.and_eq_true, decide_eq_true_eq, decide_eq_true_eq,
    maxTextLength]

/-- Time limits are positive where they are set, and a heartbeat goes with a callback and
    with no lower limit of the task. -/
structure AreTimeouts (waitForCallback : Bool) (timeout? heartbeat? : Option Int) : Prop where
  timeout : ∀ timeout, timeout? = some timeout → 0 < timeout
  heartbeat : ∀ heartbeat, heartbeat? = some heartbeat →
    waitForCallback ∧ 0 < heartbeat ∧ ∀ timeout, timeout? = some timeout → heartbeat < timeout

/-- Time limits pass where they are in order, and nothing else. -/
theorem timeouts_eq_ok {p : NewPipeline} {u : Unit} :
    timeouts p = .ok u ↔
      AreTimeouts p.waitForCallback p.taskTimeoutSeconds p.taskHeartbeatTimeoutSeconds := by
  have fields : AreTimeouts p.waitForCallback p.taskTimeoutSeconds p.taskHeartbeatTimeoutSeconds ↔
      (∀ timeout, p.taskTimeoutSeconds = some timeout → 0 < timeout) ∧
        ∀ heartbeat, p.taskHeartbeatTimeoutSeconds = some heartbeat → p.waitForCallback ∧
          0 < heartbeat ∧ ∀ timeout, p.taskTimeoutSeconds = some timeout → heartbeat < timeout :=
    ⟨fun h => ⟨h.timeout, h.heartbeat⟩, fun h => ⟨h.1, h.2⟩⟩
  rw [fields]
  unfold timeouts
  cases p.taskTimeoutSeconds <;> cases p.taskHeartbeatTimeoutSeconds <;>
    simp [bind_eq_ok, require_eq_ok, pure, Except.pure]

end Checks

end AssetRegistry.Validation
