import HandshakeAuth.Proofs.Wire.Readers

/-! Lengths and octets written one behind another. A length that its field cannot hold is refused
and leaves no trace, so what was accepted is read back. -/

namespace HandshakeAuth.Wire

theorem answer_mapM_concat {α β : Type} {f : α → Read β} {xs : List α} {x : α} {ys : List β} {y : β}
    {bs mid rest : Octets} (first : Read.answer (xs.mapM f) bs = (.ok ys, mid))
    (last : Read.answer (f x) mid = (.ok y, rest)) :
    Read.answer ((xs ++ [x]).mapM f) bs = (.ok (ys ++ [y]), rest) := by
  have one : Read.answer ([x].mapM f) mid = (.ok [y], rest) := by
    rw [List.mapM_cons, answer_bind_of_ok last]
    rfl
  rw [List.mapM_append, answer_bind_of_ok first, answer_bind_of_ok one, answer_pure]

inductive Part where
  | number (width : Width) (n : UInt64)
  | raw (bs : Octets)

namespace Part

def put : Part → Octets → Except AuthError Octets
  | number width n, buffer => putLength width.octets n.toNat buffer
  | raw bs, buffer => .ok (buffer ++ bs)

def value : Part → Reply
  | number _ n => .number n.toNat
  | raw bs => .octets bs

def read : Part → Read Reply
  | number width _ => do return .number (← Read.number width.octets)
  | raw bs => do return .octets (← Read.take bs.length)

/-- How a part is put behind a buffer: the answer, and the buffer after it. -/
inductive Puts : Part → (buffer : Octets) → Except AuthError Unit → (after : Octets) → Prop
  | number {width : Width} {n : UInt64} {buffer : Octets} (fits : n.toNat < 2 ^ (8 * width.octets))
    (long : (Octets.cut width.octets n).length = width.octets) :
    Puts (.number width n) buffer (.ok ()) (buffer ++ Octets.cut width.octets n)
  | refused {width : Width} {n : UInt64} {buffer : Octets}
    (large : 2 ^ (8 * width.octets) ≤ n.toNat) :
    Puts (.number width n) buffer (.error (.lengthOverflow n.toNat (8 * width.octets))) buffer
  | raw {bs buffer : Octets} : Puts (.raw bs) buffer (.ok ()) (buffer ++ bs)

variable {part : Part} {buffer after : Octets}

theorem Puts.exists_of_ok (puts : Puts part buffer (.ok ()) after) :
    ∃ field, after = buffer ++ field ∧
      ∀ rest, Read.answer part.read (field ++ rest) = (.ok part.value, rest) := by
  cases puts with
  | @number width n _ fits long =>
    refine ⟨Octets.cut width.octets n, rfl, fun rest => ?_⟩
    rw [read, answer_bind_of_ok (number_append long), Octets.toNat_cut fits]
    rfl
  | @raw bs =>
    refine ⟨bs, rfl, fun rest => ?_⟩
    rw [read, answer_bind_of_ok (take_append rfl)]
    rfl

theorem Puts.fits_of_ok {width : Width} {n : UInt64}
    (puts : Puts (.number width n) buffer (.ok ()) after) : n.toNat < 2 ^ (8 * width.octets) := by
  cases puts with
  | number fits long => exact fits

theorem Puts.eq_of_error {e : AuthError} (puts : Puts part buffer (.error e) after) :
    after = buffer := by
  cases puts with
  | refused large => rfl

end Part

structure Page where
  buffer : Octets
  log : List (Part × Except AuthError Unit)

namespace Page

def blank : Page := { buffer := [], log := [] }

def write (page : Page) (part : Part) : Page :=
  match part.put page.buffer with
  | .ok buffer => { buffer, log := page.log ++ [(part, .ok ())] }
  | .error e => { page with log := page.log ++ [(part, .error e)] }

def writeAll (parts : List Part) : Page :=
  parts.foldl write blank

def accepted (page : Page) : List Part :=
  (page.log.filter (·.2.isOk)).map Prod.fst

/-- The parts are on the page, each with its answer. The numbers that were accepted fit, and what
was accepted is read back in its order, whatever stands behind it. -/
structure Holds (page : Page) (parts : List Part) : Prop where
  logged : page.log.map Prod.fst = parts
  fitting : ∀ width n, .number width n ∈ page.accepted → n.toNat < 2 ^ (8 * width.octets)
  readsBack : ∀ rest, Read.answer (page.accepted.mapM Part.read) (page.buffer ++ rest) =
    (.ok (page.accepted.map Part.value), rest)

theorem write_puts (page : Page) (part : Part) :
    ∃ answer, (page.write part).log = page.log ++ [(part, answer)] ∧
      part.Puts page.buffer answer (page.write part).buffer := by
  cases part with
  | number width n =>
    have room := Octets.capacity_eq_two_pow width.octets
    rcases Nat.lt_or_ge n.toNat (Octets.capacity width.octets) with fits | large
    · have put : (Part.number width n).put page.buffer =
          .ok (page.buffer ++ Octets.cut width.octets n) := by
        rw [Part.put, putLength, lengthField_of_lt fits, Octets.ofNat_toNat_eq_cut]
        rfl
      rw [write, put]
      exact ⟨_, rfl, .number (room ▸ fits) (Octets.length_cut _ _)⟩
    · have put : (Part.number width n).put page.buffer =
          .error (.lengthOverflow n.toNat (8 * width.octets)) := by
        rw [Part.put, putLength, lengthField_of_le large]
        rfl
      rw [write, put]
      exact ⟨_, rfl, .refused (room ▸ large)⟩
  | raw bs => exact ⟨_, rfl, .raw⟩

variable {page : Page} {part : Part}

theorem accepted_of_ok {page' : Page} (log : page'.log = page.log ++ [(part, .ok ())]) :
    page'.accepted = page.accepted ++ [part] := by
  rw [accepted, log, List.filter_append, List.map_append]
  rfl

theorem accepted_of_error {page' : Page} {e : AuthError}
    (log : page'.log = page.log ++ [(part, .error e)]) : page'.accepted = page.accepted := by
  rw [accepted, log, List.filter_append, List.map_append]
  exact List.append_nil _

namespace Holds

variable {parts : List Part}

theorem blank : blank.Holds [] where
  logged := rfl
  fitting := nofun
  readsBack _ := rfl

theorem write (holds : page.Holds parts) (part : Part) :
    (page.write part).Holds (parts ++ [part]) := by
  obtain ⟨answer, log, puts⟩ := page.write_puts part
  have logged : (page.write part).log.map Prod.fst = parts ++ [part] := by
    rw [log, List.map_append, holds.logged]
    rfl
  rcases answer with e | _
  · have same : (page.write part).accepted = page.accepted := accepted_of_error log
    refine ⟨logged, ?_, ?_⟩ <;> rw [same]
    · exact holds.fitting
    · rw [puts.eq_of_error]
      exact holds.readsBack
  · have more : (page.write part).accepted = page.accepted ++ [part] := accepted_of_ok log
    refine ⟨logged, ?_, ?_⟩ <;> rw [more]
    · intro width n mem
      rcases List.mem_append.1 mem with old | new
      · exact holds.fitting width n old
      · obtain rfl := List.mem_singleton.1 new
        exact puts.fits_of_ok
    · obtain ⟨field, after, there⟩ := puts.exists_of_ok
      intro rest
      rw [after, List.append_assoc, List.map_append]
      exact answer_mapM_concat (holds.readsBack (field ++ rest)) (there rest)

theorem foldl_write (holds : page.Holds parts) (later : List Part) :
    (later.foldl Page.write page).Holds (parts ++ later) := by
  induction later generalizing page parts with
  | nil => rwa [List.append_nil]
  | cons part later ih =>
    rw [List.append_cons]
    exact ih (holds.write part)

end Holds

/-- Each part is put by the rule for it. At the end, reading the accepted parts in their order gives
their values and leaves nothing, and the shifts that read a number undo those that wrote it. -/
theorem written_reads_back (parts : List Part) :
    (∀ page part, ∃ answer, (write page part).log = page.log ++ [(part, answer)] ∧
      part.Puts page.buffer answer (page.write part).buffer) ∧
    (writeAll parts).log.map Prod.fst = parts ∧
    Read.answer ((writeAll parts).accepted.mapM Part.read) (writeAll parts).buffer =
      (.ok ((writeAll parts).accepted.map Part.value), []) ∧
    ∀ width n, Part.number width n ∈ (writeAll parts).accepted →
      Octets.shifted (Octets.cut width.octets n) = n := by
  have holds : (writeAll parts).Holds parts := Holds.blank.foldl_write parts
  refine ⟨write_puts, holds.logged, ?_, ?_⟩
  · have back := holds.readsBack []
    rwa [List.append_nil] at back
  · intro width n mem
    exact Octets.shifted_cut width.octets_le (holds.fitting width n mem)

end Page
end HandshakeAuth.Wire
