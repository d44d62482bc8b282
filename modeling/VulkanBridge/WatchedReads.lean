import VulkanBridge.Bytes

/-!
A walk over a byte buffer that may fail, and that remembers which bytes it has read and
whether its 32-bit sums and differences agreed with the integers.
-/

open ByteBuffer

/-- `reads` holds the offset and the size of every read. -/
structure Watched (ε α : Type) where
  value : Except ε α
  reads : List (Nat × Nat)
  exact : Bool

namespace Watched

variable {ε α β : Type}

def pure (value : α) : Watched ε α := ⟨.ok value, [], true⟩

def bind (first : Watched ε α) (next : α → Watched ε β) : Watched ε β :=
  match first.value with
  | .error code => ⟨.error code, first.reads, first.exact⟩
  | .ok value => ⟨(next value).value, first.reads ++ (next value).reads, first.exact && (next value).exact⟩

instance : Monad (Watched ε) where
  pure := pure
  bind := bind

def refuseIf (condition : Prop) [Decidable condition] (code : ε) : Watched ε Unit :=
  ⟨if condition then .error code else .ok (), [], true⟩

def word32 (buffer : Buffer) (offset : Nat) :
    Watched ε UInt32 := ⟨.ok (getU32 buffer offset), [(offset, 4)], true⟩

def reading (reads : List (Nat × Nat)) (value : Except ε α) : Watched ε α := ⟨value, reads, true⟩

def add (left right : UInt32) :
    Watched ε UInt32 := ⟨.ok (left + right), [], decide (left.toNat + right.toNat < 2 ^ 32)⟩

def sub (left right : UInt32) : Watched ε UInt32 := ⟨.ok (left - right), [], decide (right ≤ left)⟩

def byte (buffer : Buffer) (offset : Nat) : Watched ε UInt8 := ⟨.ok (buffer offset), [(offset, 1)], true⟩

def word16 (buffer : Buffer) (offset : Nat) :
    Watched ε UInt16 := ⟨.ok (getU16 buffer offset), [(offset, 2)], true⟩

def word64 (buffer : Buffer) (offset : Nat) :
    Watched ε UInt64 := ⟨.ok (getU64 buffer offset), [(offset, 8)], true⟩

/-- The value of a walk that does not fail. -/
def result [Inhabited α] (walk : Watched ε α) : α :=
  match walk.value with
  | .ok value => value
  | .error _ => default

def roundReads (count : Nat) (round : Nat → Watched ε α) : List (Nat × Nat) :=
  (List.range count).flatMap fun index => (round index).reads

def roundsExact (count : Nat) (round : Nat → Watched ε α) :
    Bool := (List.range count).all fun index => (round index).exact

def every (count : Nat) (test : Nat → Watched ε Bool) : Watched ε Bool :=
  ⟨.ok ((List.range count).all fun index => (test index).result), roundReads count test,
    roundsExact count test⟩

/-- A walk over the part of a larger buffer that begins at `base`. -/
def shifted (base : Nat) (walk : Watched ε α) : Watched ε α :=
  { walk with reads := walk.reads.map fun read => (base + read.1, read.2) }

/-- A walk whose value is turned into another one. -/
def map (convert : α → β) (walk : Watched ε α) : Watched ε β := { walk with value := walk.value.map convert }

/-- Every read is in the first `limit` bytes, and no sum and no difference has wrapped. -/
structure Safe (limit : Nat) (walk : Watched ε α) : Prop where
  inside : ∀ read ∈ walk.reads, read.1 + read.2 ≤ limit
  exact : walk.exact = true

variable {limit : Nat} {walk : Watched ε α} {next : α → Watched ε β}

theorem bind_eq_ok {result : β} :
    (walk >>= next).value = .ok result ↔ ∃ value, walk.value = .ok value ∧ (next value).value = .ok result :=
      by
  show (bind walk next).value = _ ↔ _
  unfold bind
  split
  · rename_i code failed
    simp [failed]
  · rename_i value done
    simp [done]

@[simp] theorem pure_eq_ok {value result : α} :
    (Pure.pure value : Watched ε α).value = .ok result ↔ value = result :=
  Except.ok.injEq value result ▸ Iff.rfl

@[simp] theorem refuseIf_eq_ok {condition : Prop} [Decidable condition] {code : ε} {result : Unit} :
    (refuseIf condition code).value = .ok result ↔ ¬ condition := by
  unfold refuseIf
  by_cases holds : condition
  · simp [holds]
  · simp [holds]

@[simp] theorem word32_eq_ok {buffer : Buffer} {offset : Nat} {result : UInt32} :
    (word32 buffer offset : Watched ε UInt32).value = .ok result ↔ getU32 buffer offset = result :=
  Except.ok.injEq _ result ▸ Iff.rfl

@[simp] theorem add_eq_ok {left right result : UInt32} :
    (add left right : Watched ε UInt32).value = .ok result ↔ left + right = result :=
  Except.ok.injEq _ result ▸ Iff.rfl

@[simp] theorem sub_eq_ok {left right result : UInt32} :
    (sub left right : Watched ε UInt32).value = .ok result ↔ left - right = result :=
  Except.ok.injEq _ result ▸ Iff.rfl

namespace Safe

theorem pure (value : α) : Safe limit (Pure.pure value : Watched ε α) :=
  ⟨fun _ member => absurd member List.not_mem_nil, rfl⟩

theorem bind (first : Safe limit walk) (later : ∀ value, walk.value = .ok value → Safe limit (next value)) :
    Safe limit (walk >>= next) := by
  show Safe limit (Watched.bind walk next)
  unfold Watched.bind
  split
  · exact ⟨first.inside, first.exact⟩
  · rename_i value done
    obtain ⟨inside, exact⟩ := later value done
    refine ⟨?_, ?_⟩
    · intro read member
      rcases List.mem_append.mp member with earlier | after
      · exact first.inside read earlier
      · exact inside read after
    · simp only [first.exact, exact, Bool.and_self]

theorem refuseIf {condition : Prop} [Decidable condition] {code : ε} :
    Safe limit (Watched.refuseIf condition code) :=
  ⟨fun _ member => absurd member List.not_mem_nil, rfl⟩

theorem word32 {buffer : Buffer} {offset : Nat} (inside : offset + 4 ≤ limit) :
    Safe limit (Watched.word32 buffer offset : Watched ε UInt32) := by
  refine ⟨?_, rfl⟩
  intro read member
  obtain rfl := List.mem_singleton.mp member
  exact inside

theorem reading {reads : List (Nat × Nat)} {value : Except ε α}
    (inside : ∀ read ∈ reads, read.1 + read.2 ≤ limit) :
    Safe limit (Watched.reading reads value) := ⟨inside, rfl⟩

theorem add {left right : UInt32} (fits : left.toNat + right.toNat < 2 ^ 32) :
    Safe limit (Watched.add left right : Watched ε UInt32) :=
  ⟨fun _ member => absurd member List.not_mem_nil, decide_eq_true fits⟩

theorem sub {left right : UInt32} (ordered : right ≤ left) :
    Safe limit (Watched.sub left right : Watched ε UInt32) :=
  ⟨fun _ member => absurd member List.not_mem_nil, decide_eq_true ordered⟩

end Safe

theorem safe_bind_iff : Safe limit (walk >>= next) ↔
    Safe limit walk ∧ ∀ value, walk.value = .ok value → Safe limit (next value) := by
  constructor
  · intro safe
    cases done : walk.value with
    | error code =>
        have same : walk >>= next = ⟨.error code, walk.reads, walk.exact⟩ := by
          show bind walk next = _
          simp only [bind, done]
        refine ⟨⟨?_, ?_⟩, ?_⟩
        · exact (same ▸ safe).inside
        · exact (same ▸ safe).exact
        · intro value impossible
          cases impossible
    | ok value =>
        have same : walk >>= next = ⟨(next value).value, walk.reads ++ (next value).reads, walk.exact &&
          (next value).exact⟩ := by
          show bind walk next = _
          simp only [bind, done]
        obtain ⟨inside, exact⟩ := same ▸ safe
        have exact := Bool.and_eq_true_iff.mp exact
        refine ⟨⟨fun read member => inside read (List.mem_append_left _ member), exact.1⟩, ?_⟩
        intro other same
        obtain rfl : value = other := Except.ok.inj same
        exact ⟨fun read member => inside read (List.mem_append_right _ member), exact.2⟩
  · rintro ⟨first, later⟩
    exact first.bind later

theorem safe_single_iff {value : Except ε α} {offset size : Nat} :
    Safe limit (⟨value, [(offset, size)], true⟩ : Watched ε α) ↔ offset + size ≤ limit := by
  constructor
  · intro safe
    exact safe.inside (offset, size) List.mem_cons_self
  · intro inside
    refine ⟨?_, rfl⟩
    intro read member
    obtain rfl := List.mem_singleton.mp member
    exact inside

section Reads

variable {buffer : Buffer} {offset : Nat}

@[simp] theorem safe_byte_iff : Safe limit (byte buffer offset : Watched ε UInt8) ↔ offset + 1 ≤ limit :=
  safe_single_iff

@[simp] theorem safe_word16_iff : Safe limit (word16 buffer offset : Watched ε UInt16) ↔ offset + 2 ≤ limit :=
  safe_single_iff

@[simp] theorem safe_word32_iff : Safe limit (word32 buffer offset : Watched ε UInt32) ↔ offset + 4 ≤ limit :=
  safe_single_iff

@[simp] theorem safe_word64_iff : Safe limit (word64 buffer offset : Watched ε UInt64) ↔ offset + 8 ≤ limit :=
  safe_single_iff

@[simp] theorem byte_eq_ok {result : UInt8} :
    (byte buffer offset : Watched ε UInt8).value = .ok result ↔ buffer offset = result :=
  Except.ok.injEq _ result ▸ Iff.rfl

@[simp] theorem word64_eq_ok {result : UInt64} :
    (word64 buffer offset : Watched ε UInt64).value = .ok result ↔ getU64 buffer offset = result :=
  Except.ok.injEq _ result ▸ Iff.rfl

end Reads

@[simp] theorem safe_pure (value : α) : Safe limit (Pure.pure value : Watched ε α) := Safe.pure value

theorem safe_loop_iff {value : Except ε β} {count : Nat} {round : Nat → Watched ε α} :
    Safe limit ⟨value, roundReads count round, roundsExact count round⟩ ↔
      ∀ index, index < count → Safe limit (round index) := by
  constructor
  · rintro ⟨inside, exact⟩ index below
    have present := List.mem_range.mpr below
    refine ⟨fun read member => inside read (List.mem_flatMap.mpr ⟨index, present, member⟩), ?_⟩
    exact List.all_eq_true.mp exact index present
  · intro each
    refine ⟨?_, ?_⟩
    · intro read member
      obtain ⟨index, present, member⟩ := List.mem_flatMap.mp member
      exact (each index (List.mem_range.mp present)).inside read member
    · exact List.all_eq_true.mpr fun index present => (each index (List.mem_range.mp present)).exact

@[simp] theorem safe_every_iff {count : Nat} {test : Nat → Watched ε Bool} :
    Safe limit (every count test) ↔ ∀ index, index < count → Safe limit (test index) := safe_loop_iff

@[simp] theorem every_eq_ok {count : Nat} {test : Nat → Watched ε Bool} {passed : Bool} :
    (every count test).value = .ok passed ↔ ((List.range count).all fun index => (test index).result) =
      passed :=
  Except.ok.injEq _ passed ▸ Iff.rfl

theorem shifted_safe {base : Nat} {whole : Nat} (safe : Safe limit walk) (fits : base + limit ≤ whole) :
    Safe whole (walk.shifted base) := by
  refine ⟨?_, safe.exact⟩
  intro read member
  obtain ⟨part, present, rfl⟩ := List.mem_map.mp member
  have inside := safe.inside part present
  show base + part.1 + part.2 ≤ whole
  omega

theorem refuse_stops {condition : Prop} [Decidable condition] {code : ε} {later : Unit → Watched ε α}
    (holds : condition) :
    (refuseIf condition code >>= later).value = .error code := by
  show (bind (refuseIf condition code) later).value = _
  simp only [bind, refuseIf, if_pos holds]

theorem refuse_passes {condition : Prop} [Decidable condition] {code : ε} {later : Unit → Watched ε α}
    (clear : ¬condition) :
    (refuseIf condition code >>= later).value = (later ()).value := by
  show (bind (refuseIf condition code) later).value = _
  simp only [bind, refuseIf, if_neg clear]

@[simp] theorem safe_refuseIf {condition : Prop} [Decidable condition] {code : ε} :
    Safe limit (refuseIf condition code : Watched ε Unit) := Safe.refuseIf

theorem safe_map_iff {convert : α → β} : Safe limit (walk.map convert) ↔ Safe limit walk :=
  ⟨fun safe => ⟨safe.inside, safe.exact⟩, fun safe => ⟨safe.inside, safe.exact⟩⟩

theorem bind_value {value : α} (done : walk.value = .ok value) :
    (walk >>= next).value = (next value).value := by
  show (bind walk next).value = _
  simp only [bind, done]

theorem bind_error {code : ε} (failed : walk.value = .error code) : (walk >>= next).value = .error code := by
  show (bind walk next).value = _
  simp only [bind, failed]

theorem shifted_value {base : Nat} {value : Except ε α} (done : walk.value = value) :
    (walk.shifted base).value = value := done

end Watched
