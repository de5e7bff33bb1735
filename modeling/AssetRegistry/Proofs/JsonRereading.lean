import AssetRegistry.Proofs.JsonRecord

/-!
# Reading what was read

A text may say a value in many ways: as an object or an array, with its fields in any order,
without some of them, with others that nobody knows.  What is written is one of these ways,
and it is read as the same value.  A codec `Recovers` where every value that it has read off
some tokens is taken from what the value is written as.  A record recovers where its fields
do, so nothing is said here of the ways in which a text may differ.
-/

namespace AssetRegistry.Json

variable {α β : Type} {room steps : Nat}

/-- Two steps of reading succeed where the first does, and then the second. -/
theorem bind_eq_ok {x : Except Fault α} {f : α → Except Fault β} {b : β} :
    (x >>= f) = .ok b ↔ ∃ a, x = .ok a ∧ f a = .ok b := by
  cases x <;> simp [bind, Except.bind]

/-- What has succeeded has a value. -/
theorem exists_eq_ok_of_isOk {x : Except Fault α} (ok : x.isOk) : ∃ a, x = .ok a := by
  cases x with
  | error => cases ok
  | ok a => exact ⟨a, rfl⟩

/-- A value that is there already is the one that is read. -/
theorem pure_eq_ok {a b : α} : (pure a : Except Fault α) = .ok b ↔ a = b := by
  simp [pure, Except.pure]

/-- Inside a bracket there is one level less. -/
theorem enter_eq_ok {inner : Nat} : enter room = .ok inner ↔ room = inner + 1 := by
  cases room <;> simp [enter, eq_comm]

/-! ### Parts of what was read -/

/-- What is true of everything that a decoder reads is true of all items of an array. -/
theorem forall_of_items {decode : Decoder α} {P : α → Prop}
    (each : ∀ ts a ts', decode room ts = .ok (a, ts') → P a) {first : Bool} {ts ts' : List Token}
    {as : List α} (read : items decode room steps first ts = .ok (as, ts')) : ∀ a ∈ as, P a := by
  induction steps generalizing first ts as with
  | zero => cases read
  | succ steps ih =>
    rw [items] at read
    obtain ⟨next, _, read⟩ := bind_eq_ok.1 read
    cases next with
    -- The closing bracket ends the items, and a value goes on with them.
    | none =>
      cases pure_eq_ok.1 read
      simp
    | some ts₁ =>
      obtain ⟨⟨a, ts₂⟩, head, read⟩ := bind_eq_ok.1 read
      obtain ⟨⟨others, ts₃⟩, tail, read⟩ := bind_eq_ok.1 read
      cases pure_eq_ok.1 read
      exact List.forall_mem_cons.2 ⟨each _ _ _ head, ih tail⟩

/-- A list is read one level further in. -/
theorem forall_of_list {decode : Decoder α} {ts ts' : List Token} {as : List α}
    (read : Decoder.list decode room ts = .ok (as, ts')) :
    ∃ inner, room = inner + 1 ∧
      ∀ a ∈ as, ∃ ts ts', decode inner ts = .ok (a, ts') := by
  unfold Decoder.list at read
  split at read
  · obtain ⟨inner, entered, read⟩ := bind_eq_ok.1 read
    obtain ⟨⟨others, ts₁⟩, inside, read⟩ := bind_eq_ok.1 read
    obtain ⟨ts₂, _, read⟩ := bind_eq_ok.1 read
    cases pure_eq_ok.1 read
    have each : ∀ a ∈ as, ∃ ts ts', decode inner ts = .ok (a, ts') :=
      forall_of_items (fun ts a ts' decoded => ⟨ts, ts', decoded⟩) inside
    exact ⟨inner, enter_eq_ok.1 entered, each⟩
  · cases read

/-- What every member keeps is kept over all members of an object. -/
theorem of_members {member : String → σ → Decoder σ} {P : σ → Prop}
    (keeps : ∀ key s ts s' ts', P s → member key s room ts = .ok (s', ts') → P s') {first : Bool}
    {ts ts' : List Token} {s s' : σ} (start : P s)
    (read : members member room steps first s ts = .ok (s', ts')) : P s' := by
  induction steps generalizing first ts s with
  | zero => cases read
  | succ steps ih =>
    rw [members] at read
    obtain ⟨next, _, read⟩ := bind_eq_ok.1 read
    cases next with
    -- The closing brace ends the members, and a key goes on with them.
    | none =>
      cases pure_eq_ok.1 read
      exact start
    | some found =>
      obtain ⟨key, ts₁⟩ := found
      obtain ⟨⟨s₁, ts₂⟩, passed, read⟩ := bind_eq_ok.1 read
      exact ih (keeps key s ts₁ s₁ ts₂ start passed) read

/-! ### Codecs that recover -/

/-- Every value that was read is read from what it is written as, if there is as much room,
    and so is the value that a missing member stands for. -/
structure Codec.Recovers (codec : Codec α) (room : Nat) : Prop where
  decoded : ∀ {ts a ts'}, codec.decode room ts = .ok (a, ts') →
    codec.decode.Takes room (codec.encode a) a
  absent : ∀ a ∈ codec.absent, codec.decode.Takes room (codec.encode a) a

/-- An integer that was read is in its range. -/
theorem inRange_of_integer {least greatest n : Int} {ts ts' : List Token}
    (read : (Codec.integer least greatest).decode room ts = .ok (n, ts')) :
    least ≤ n ∧ n ≤ greatest := by
  simp only [Codec.integer] at read
  split at read
  · split at read
    · split at read
      · cases read
        assumption
      · cases read
    · cases read
  · cases read

namespace Codec.Recovers

/-- A text is read again as it was. -/
theorem string : Codec.string.Recovers room :=
  ⟨fun _ => takes_string _, nofun⟩

/-- A truth value is read again as it was. -/
theorem bool : Codec.bool.Recovers room :=
  ⟨fun _ _ => rfl, nofun⟩

/-- Integers in a range. -/
theorem integer (least greatest : Int) : (Codec.integer least greatest).Recovers room := by
  refine ⟨fun {ts a ts'} read => ?_, nofun⟩
  have inRange := inRange_of_integer read
  intro rest
  simp [Codec.integer, toTokens, inRange]

/-- Texts of a certain form, where a value that was read is read from its own text. -/
theorem spelled {read : String → Option α} {spell : α → String}
    (respelled : ∀ s a, read s = some a → read (spell a) = some a) :
    (Codec.spelled read spell).Recovers room := by
  refine ⟨fun {ts a ts'} h => ?_, nofun⟩
  -- What was read was the text of some value.
  have found : ∃ s, read s = some a := by
    simp only [Codec.spelled] at h
    split at h
    · split at h
      · cases h
        exact ⟨_, ‹_›⟩
      · cases h
    · cases h
  obtain ⟨s, found⟩ := found
  intro rest
  simp [Codec.spelled, toTokens, respelled s a found]

/-- Names, where every value has the name that it is written as. -/
theorem choice {read : String → Option α} {spell : α → String}
    (named : ∀ a, read (spell a) = some a) : (Codec.choice read spell).Recovers room := by
  refine ⟨fun {ts a ts'} _ rest => ?_, nofun⟩
  simp [Codec.choice, toTokens, named]

/-- A value or `null`. -/
theorem option {codec : Codec α} (recovers : codec.Recovers room)
    (present : ∀ a, codec.encode a ≠ .null) : (Codec.option codec).Recovers room := by
  refine ⟨?_, ?_⟩
  · intro ts a? ts' read
    apply takes_option
    intro a found
    refine ⟨present a, ?_⟩
    simp only [Codec.option] at read
    split at read
    · -- A `null` was read, so there is no value.
      cases read
      cases found
    · obtain ⟨⟨b, ts₁⟩, decoded, read⟩ := bind_eq_ok.1 read
      cases pure_eq_ok.1 read
      cases found
      exact recovers.decoded decoded
  · intro a? missing
    cases missing
    exact takes_none

/-- Lists. -/
theorem list {codec : Codec α} (recovers : codec.Recovers room) :
    (Codec.list codec).Recovers (room + 1) := by
  refine ⟨fun {ts as ts'} read => ?_, nofun⟩
  -- The items were read with the room that is left inside the brackets.
  obtain ⟨inner, same, each⟩ := forall_of_list read
  cases same
  refine takes_list (List.forall₂_same.2 fun a member => ?_)
  obtain ⟨ts₁, ts₂, decoded⟩ := each a member
  exact recovers.decoded decoded

/-- Counts are integers of 64 bits. -/
theorem count : Codec.count.Recovers room := by
  refine ⟨fun {ts n ts'} read => takes_count ?_, nofun⟩
  obtain ⟨⟨value, ts₁⟩, decoded, read⟩ := bind_eq_ok.1 read
  cases pure_eq_ok.1 read
  have inRange := inRange_of_integer decoded
  omega

end Codec.Recovers

/-! ### Records that recover -/

namespace Fields

/-- The codecs of all fields recover, and the defaults are read from what they are written
    as. -/
def Recovers (room : Nat) : Fields τ σ → Prop
  | .nil => True
  | .cons field rest =>
    field.codec.Recovers room ∧
      (∀ a ∈ field.default, field.codec.decode.Takes room (field.codec.encode a) a) ∧
      rest.Recovers room

namespace Recovers

variable {codec : Codec α} {rest : Fields τ σ} {name : String}

/-- A record without fields has nothing to be read again. -/
theorem nil : (Fields.nil).Recovers room :=
  trivial

/-- A field that has to be there is read again where its value is. -/
theorem required (recovers : codec.Recovers room) (others : rest.Recovers room) :
    (Fields.required name codec rest).Recovers room :=
  ⟨recovers, nofun, others⟩

/-- A field that may be left out is written out, and read again with its default. -/
theorem defaulted {default : α} (recovers : codec.Recovers room)
    (takes : codec.decode.Takes room (codec.encode default) default)
    (others : rest.Recovers room) : (Fields.defaulted name codec default rest).Recovers room :=
  ⟨recovers, by rintro _ ⟨⟩; exact takes, others⟩

end Recovers

/-- Every value that was met so far is read from what it is written as. -/
def Recovered (room : Nat) : Fields τ σ → σ → Prop
  | .nil, _ => True
  | .cons field rest, (value, values) =>
    (∀ a ∈ value, field.codec.decode.Takes room (field.codec.encode a) a) ∧
      rest.Recovered room values

/-- Before the first member nothing has been read. -/
theorem recovered_unmet (fields : Fields τ σ) : fields.Recovered room fields.unmet := by
  induction fields with
  | nil => trivial
  | cons field rest ih => exact ⟨nofun, ih⟩

/-- A field that is met has a value that recovers. -/
theorem recovered_of_met? {fields : Fields τ σ} (recovers : fields.Recovers room) {key : String}
    {values values' : σ} {decode : Decoder σ} {ts ts' : List Token}
    (before : fields.Recovered room values) (known : fields.met? key values = some decode)
    (read : decode room ts = .ok (values', ts')) : fields.Recovered room values' := by
  induction fields with
  | nil => cases known
  | cons field rest ih =>
    obtain ⟨value, values⟩ := values
    obtain ⟨own, _, others⟩ := recovers
    obtain ⟨ownBefore, othersBefore⟩ := before
    rw [met?] at known
    split at known
    · -- The key is that of the first field, which must not have been met before.
      cases known
      cases value with
      | some a => cases read
      | none =>
        obtain ⟨ts₁, _, read⟩ := bind_eq_ok.1 read
        obtain ⟨⟨a, ts₂⟩, decoded, read⟩ := bind_eq_ok.1 read
        cases pure_eq_ok.1 read
        refine ⟨?_, othersBefore⟩
        rintro _ ⟨⟩
        exact own.decoded decoded
    · -- The key is that of a later field, and the first one stays as it is.
      obtain ⟨decodeOther, knownOther, rfl⟩ := Option.map_eq_some_iff.1 known
      obtain ⟨⟨values₁, ts₁⟩, readOther, read⟩ := bind_eq_ok.1 read
      cases pure_eq_ok.1 read
      exact ⟨ownBefore, ih others othersBefore knownOther readOther⟩

/-- So it goes with every member, known or not. -/
theorem recovered_of_member {fields : Fields τ σ} (recovers : fields.Recovers room) {key : String}
    {values values' : σ} {ts ts' : List Token} (before : fields.Recovered room values)
    (read : fields.member key values room ts = .ok (values', ts')) :
    fields.Recovered room values' := by
  rw [member] at read
  cases known : fields.met? key values with
  | some decode =>
    rw [known] at read
    exact recovered_of_met? recovers before known read
  -- An unknown member is passed over, and the values stay.
  | none =>
    rw [known] at read
    obtain ⟨ts₁, _, read⟩ := bind_eq_ok.1 read
    obtain ⟨ts₂, _, read⟩ := bind_eq_ok.1 read
    cases pure_eq_ok.1 read
    exact before

/-- The values of fields that were left out recover too. -/
theorem restores_of_fill {fields : Fields τ σ} (recovers : fields.Recovers room) {values : σ}
    {vs : τ} (before : fields.Recovered room values) (filled : fields.fill values = .ok vs) :
    fields.Restores room vs vs := by
  induction fields with
  | nil => trivial
  | cons field rest ih =>
    obtain ⟨value, values⟩ := values
    obtain ⟨own, default, others⟩ := recovers
    obtain ⟨ownBefore, othersBefore⟩ := before
    rw [fill] at filled
    split at filled
    · cases filled
    · rename_i a chosen
      obtain ⟨vs', filledOthers, filled⟩ := bind_eq_ok.1 filled
      cases pure_eq_ok.1 filled
      refine ⟨?_, ih others othersBefore filledOthers⟩
      -- The value was met, or else it is the default of the field or of its codec.
      cases value with
      | some b =>
        cases chosen
        exact ownBefore a rfl
      | none =>
        cases given : field.default with
        | some b =>
          rw [given] at chosen
          cases chosen
          exact default a given
        | none =>
          rw [given] at chosen
          exact own.absent a chosen

/-- Fields are read from the items of an array in the same way. -/
theorem restores_of_decodeItems {fields : Fields τ σ} (recovers : fields.Recovers room)
    {first : Bool} {ts ts' : List Token} {vs : τ}
    (read : fields.decodeItems first room ts = .ok (vs, ts')) : fields.Restores room vs vs := by
  induction fields generalizing first ts with
  | nil => trivial
  | cons field rest ih =>
    obtain ⟨own, default, others⟩ := recovers
    rw [decodeItems] at read
    obtain ⟨next, _, read⟩ := bind_eq_ok.1 read
    cases next with
    | some ts₁ =>
      obtain ⟨⟨a, ts₂⟩, decoded, read⟩ := bind_eq_ok.1 read
      obtain ⟨⟨vs', ts₃⟩, readOthers, read⟩ := bind_eq_ok.1 read
      cases pure_eq_ok.1 read
      exact ⟨own.decoded decoded, ih others readOthers⟩
    | none =>
      -- The array has ended, so the value is the default of the field.
      cases given : field.default with
      | none =>
        simp only [given] at read
        cases read
      | some a =>
        simp only [given] at read
        obtain ⟨⟨vs', ts₁⟩, readOthers, read⟩ := bind_eq_ok.1 read
        cases pure_eq_ok.1 read
        exact ⟨default a given, ih others readOthers⟩

/-- Fields are read one level further in, and what was read of them recovers. -/
theorem restores_of_decode {fields : Fields τ σ} {ts ts' : List Token} {vs : τ}
    (recovers : fields.Recovers room) (read : fields.decode (room + 1) ts = .ok (vs, ts')) :
    fields.Restores room vs vs := by
  unfold decode at read
  split at read
  · -- An object: what was met over its members is filled up with defaults.
    obtain ⟨inner, entered, read⟩ := bind_eq_ok.1 read
    cases enter_eq_ok.1 entered
    obtain ⟨⟨values, ts₁⟩, passed, read⟩ := bind_eq_ok.1 read
    obtain ⟨vs', filled, read⟩ := bind_eq_ok.1 read
    obtain ⟨ts₂, _, read⟩ := bind_eq_ok.1 read
    cases pure_eq_ok.1 read
    have met : fields.Recovered room values :=
      of_members (fun _ _ _ _ _ => recovered_of_member recovers) fields.recovered_unmet passed
    exact restores_of_fill recovers met filled
  · -- An array: the values come in the order of the fields.
    obtain ⟨inner, entered, read⟩ := bind_eq_ok.1 read
    cases enter_eq_ok.1 entered
    obtain ⟨⟨vs', ts₁⟩, inside, read⟩ := bind_eq_ok.1 read
    obtain ⟨ts₂, _, read⟩ := bind_eq_ok.1 read
    cases pure_eq_ok.1 read
    exact restores_of_decodeItems recovers inside
  · cases read

end Fields

/-- A record recovers where its fields do, if they have different names and make up the
    value. -/
theorem Codec.Recovers.record {fields : Fields τ σ} {make : τ → α} {values : α → τ}
    (distinct : fields.names.Nodup) (made : ∀ vs, values (make vs) = vs)
    (recovers : fields.Recovers room) : (Codec.record fields make values).Recovers (room + 1) := by
  refine ⟨fun {ts a ts'} read => ?_, nofun⟩
  obtain ⟨⟨vs, ts₁⟩, decoded, read⟩ := bind_eq_ok.1 read
  cases pure_eq_ok.1 read
  have restores := Fields.restores_of_decode recovers decoded
  refine takes_record_encode distinct ?_ (congrArg make (made vs))
  rw [made]
  exact restores

/-- What is read from a text is read from the text that it is written as. -/
def Codec.Rereads (codec : Codec α) : Prop :=
  ∀ text a, codec.ofText text = .ok a → codec.ofText (codec.text a) = .ok a

/-- What is read again with room for all brackets is read again as a whole text. -/
theorem Codec.Recovers.rereads {codec : Codec α} (recovers : codec.Recovers maxDepth) :
    codec.Rereads := by
  intro text a read
  obtain ⟨⟨b, rest⟩, decoded, read⟩ := bind_eq_ok.1 read
  dsimp only at read
  -- Nothing was left after the value.
  split at read
  · cases pure_eq_ok.1 read
    exact ofText_text (recovers.decoded decoded)
  · cases read

end AssetRegistry.Json
