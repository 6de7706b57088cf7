import HandshakeAuth.Proofs.Octets
import HandshakeAuth.Proofs.Wire.Reading
import HandshakeAuth.Wire.Cursor

/-! A cursor within its buffer. As long as the place is not beyond the buffer no sum and no
difference wraps, and a move along the buffer is a read of the octets behind the place. -/

namespace HandshakeAuth.Wire

variable {α β γ δ : Type}

namespace Width

theorem toNat_word (width : Width) : width.word.toNat = width.octets := by
  cases width <;> rfl

theorem octets_le (width : Width) : width.octets ≤ 8 := by
  cases width <;> decide

end Width

namespace Cursor

def left (c : Cursor) : Octets := c.buffer.drop c.place.toNat

theorem Move.bind_eq (move : Move α) (next : α → Move β) (c : Cursor) :
    (move >>= next) c =
      match move c with
      | (.ok a, c') => next a c'
      | (.error e, c') => (.error e, c') := by
  change (match move c with | (a, c') => ExceptT.bindCont next a c') = _
  rcases move c with ⟨_ | _, _⟩ <;> rfl

/-- A cursor that is not beyond its buffer, whose octets a machine word can count. -/
structure Sound (c : Cursor) : Prop where
  counted : c.buffer.length < UInt64.size
  within : c.place.toNat ≤ c.buffer.length

namespace Sound

variable {c : Cursor}

theorem start {buffer : Octets} (counted : buffer.length < UInt64.size) :
    (Cursor.start buffer).Sound where
  counted := counted
  within := Nat.zero_le _

theorem toNat_remaining (sound : c.Sound) : c.remaining.toNat = c.left.length := by
  have counted : (UInt64.ofNat c.buffer.length).toNat = c.buffer.length :=
    UInt64.toNat_ofNat_of_lt' sound.counted
  rw [remaining, left, List.length_drop, UInt64.toNat_sub_of_le, counted]
  rw [UInt64.le_iff_toNat_le, counted]
  exact sound.within

theorem remaining_eq_zero_iff (sound : c.Sound) : c.remaining = 0 ↔ c.left = [] := by
  rw [← UInt64.toNat_inj, sound.toNat_remaining]
  exact List.length_eq_zero_iff

theorem remaining_lt_iff (sound : c.Sound) {n : UInt64} :
    c.remaining < n ↔ c.left.length < n.toNat := by
  rw [UInt64.lt_iff_toNat_lt, sound.toNat_remaining]

theorem toNat_add (sound : c.Sound) {n : UInt64} (enough : n.toNat ≤ c.left.length) :
    (c.place + n).toNat = c.place.toNat + n.toNat := by
  have within := sound.within
  have counted := sound.counted
  rw [left, List.length_drop] at enough
  rw [UInt64.toNat_add, Nat.mod_eq_of_lt]
  change _ < UInt64.size
  omega

theorem advance (sound : c.Sound) {n : UInt64} (enough : n.toNat ≤ c.left.length) :
    ({ c with place := c.place + n } : Cursor).Sound where
  counted := sound.counted
  within := by
    have moved := sound.toNat_add enough
    have within := sound.within
    rw [left, List.length_drop] at enough
    change (c.place + n).toNat ≤ c.buffer.length
    omega

end Sound

structure Matches (form : α → β) (read : Read β) (c : Cursor)
    (moved : Except AuthError α × Cursor) : Prop where
  buffer : moved.2.buffer = c.buffer
  sound : moved.2.Sound
  answer : Read.answer read c.left = (moved.1.map form, moved.2.left)

/-- Within a buffer, the move does what the read does with the octets left. -/
def Follows (move : Move α) (form : α → β) (read : Read β) : Prop :=
  ∀ c : Cursor, c.Sound → Matches form read c (move c)

namespace Follows

theorem pure (form : α → β) (a : α) : Follows (pure a) form (pure (form a)) := by
  intro c sound
  exact ⟨rfl, sound, rfl⟩

theorem bind {move : Move α} {form : α → β} {read : Read β} {next : α → Move γ}
    {form' : γ → δ} {next' : β → Read δ} (first : Follows move form read)
    (later : ∀ a bs rest, Read.answer read bs = (.ok (form a), rest) →
      Follows (next a) form' (next' (form a))) :
    Follows (move >>= next) form' (read >>= next') := by
  intro c sound
  have before := first c sound
  rw [Move.bind_eq]
  generalize move c = moved at before
  rcases moved with ⟨e | a, c'⟩
  · refine ⟨before.buffer, before.sound, ?_⟩
    rw [answer_bind, before.answer]
    rfl
  · have after := later a _ _ before.answer c' before.sound
    refine ⟨after.buffer.trans before.buffer, after.sound, ?_⟩
    rw [answer_bind, before.answer]
    exact after.answer

theorem take (n : UInt64) : Follows (Move.take n) id (Read.take n.toNat) := by
  intro c sound
  unfold Move.take
  split
  next short =>
    rw [sound.remaining_lt_iff] at short
    exact ⟨rfl, sound, take_of_lt short⟩
  next enough =>
    rw [sound.remaining_lt_iff, Nat.not_lt] at enough
    refine ⟨rfl, sound.advance enough, ?_⟩
    rw [take_of_le enough]
    simp only [left, sound.toNat_add enough, Except.map, id, List.extract_eq_take_drop,
      Nat.add_sub_cancel_left, List.drop_drop]

theorem number (width : Width) :
    Follows (Move.number width) UInt64.toNat (Read.number width.octets) := by
  have field : Follows (Move.take width.word) id (Read.take width.octets) := by
    have along := take width.word
    rwa [width.toNat_word] at along
  refine field.bind fun bs _ _ read => ?_
  obtain ⟨whole, -⟩ := answer_take_eq_ok_iff.1 read
  have value : Octets.toNat bs = (Octets.shifted bs).toNat :=
    (Octets.toNat_shifted (Nat.le_trans (Nat.le_of_eq whole) width.octets_le)).symm
  rw [id, value]
  exact pure UInt64.toNat (Octets.shifted bs)

theorem vector (width : Width) : Follows (Move.vector width) id (Read.vector width.octets) :=
  (number width).bind fun n _ _ _ => take n

theorem isEmpty : Follows Move.isEmpty id Read.isEmpty := by
  intro c sound
  refine ⟨rfl, sound, ?_⟩
  have same : c.left.isEmpty = decide (c.remaining = 0) := by
    rw [Bool.eq_iff_iff, List.isEmpty_iff, decide_eq_true_iff, sound.remaining_eq_zero_iff]
  change (Except.ok c.left.isEmpty, c.left) = (Except.ok (decide (c.remaining = 0)), c.left)
  rw [same]

theorem expectEnd (part : String) : Follows (Move.expectEnd part) id (Read.expectEnd part) := by
  intro c sound
  unfold Move.expectEnd
  split
  next none =>
    rw [sound.remaining_eq_zero_iff] at none
    refine ⟨rfl, sound, ?_⟩
    rw [none]
    rfl
  next some =>
    rw [sound.remaining_eq_zero_iff] at some
    refine ⟨rfl, sound, ?_⟩
    rw [answer_expectEnd_of_ne some, sound.toNat_remaining]
    rfl

end Follows

end Cursor
end HandshakeAuth.Wire
