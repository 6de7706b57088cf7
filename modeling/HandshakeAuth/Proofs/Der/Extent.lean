import HandshakeAuth.Der.Lenient
import Mathlib.Data.List.TakeWhile
import HandshakeAuth.Proofs.Der.Reading

/-! How far a read of a certificate's elements reaches. What is read stands in front of what is
left, and an element is settled by its own octets: nothing behind it changes how it is read. -/

namespace HandshakeAuth.Der

variable {α β : Type} {bs rest : Octets}

structure Read.Trims (r : Read α) : Prop where
  suffix : ∀ {bs a rest}, r bs = some (a, rest) → rest <:+ bs

/-- A read that is settled by the octets it takes, whatever stands behind them. -/
structure Read.Settled (r : Read α) : Prop where
  taken : ∀ {bs a rest}, r bs = some (a, rest) →
    ∃ taken, bs = taken ++ rest ∧ ∀ more, r (taken ++ more) = some (a, more)

namespace Read

theorem pure_eq_some_iff {a b : α} :
    (pure a : Read α) bs = some (b, rest) ↔ a = b ∧ bs = rest := by
  change some (a, bs) = some (b, rest) ↔ _
  rw [Option.some.injEq, Prod.mk.injEq]

theorem lift_eq_some_iff {o : Option α} {a : α} :
    (liftM o : Read α) bs = some (a, rest) ↔ o = some a ∧ bs = rest := by
  rcases o with _ | a'
  · exact ⟨nofun, fun h => nomatch h.1⟩
  · rw [Option.some.injEq]
    exact pure_eq_some_iff

namespace Settled

theorem pure (a : α) : (pure a : Read α).Settled where
  taken h := by
    obtain ⟨rfl, rfl⟩ := pure_eq_some_iff.1 h
    exact ⟨[], rfl, fun _ => rfl⟩

theorem lift (o : Option α) : (liftM o : Read α).Settled where
  taken h := by
    obtain ⟨rfl, rfl⟩ := lift_eq_some_iff.1 h
    exact ⟨[], rfl, fun _ => rfl⟩

theorem guard (p : Prop) [Decidable p] : (guard p : Read Unit).Settled where
  taken h := by
    obtain ⟨holds, rfl⟩ := guard_eq_some_iff.1 h
    exact ⟨[], rfl, fun _ => guard_eq_some_iff.2 ⟨holds, rfl⟩⟩

theorem take (n : Nat) : (Read.take n).Settled where
  taken h := by
    obtain ⟨size, rfl⟩ := take_eq_some_iff.1 h
    exact ⟨_, rfl, fun _ => take_eq_some_iff.2 ⟨size, rfl⟩⟩

theorem octet : Read.octet.Settled where
  taken h := by
    obtain rfl := octet_eq_some_iff.1 h
    exact ⟨[_], rfl, fun _ => octet_eq_some_iff.2 rfl⟩

variable {r : Read α}

theorem ite {p : Prop} [Decidable p] {r' : Read α} (positive : r.Settled) (negative : r'.Settled) :
    (if p then r else r').Settled := by
  split
  · exact positive
  · exact negative

theorem bind {f : α → Read β} (first : r.Settled) (next : ∀ a, (f a).Settled) :
    (r >>= f).Settled where
  taken h := by
    obtain ⟨a, mid, front, back⟩ := bind_eq_some_iff.1 h
    obtain ⟨taken, rfl, again⟩ := first.taken front
    obtain ⟨taken', rfl, again'⟩ := (next a).taken back
    refine ⟨taken ++ taken', (List.append_assoc ..).symm, fun more => ?_⟩
    rw [List.append_assoc]
    exact bind_eq_some_iff.2 ⟨a, taken' ++ more, again _, again' more⟩

theorem trims (settled : r.Settled) : r.Trims where
  suffix h := by
    obtain ⟨taken, rfl, -⟩ := settled.taken h
    exact List.suffix_append taken _

theorem append {a : α} (settled : r.Settled) (h : r bs = some (a, rest)) (more : Octets) :
    r (bs ++ more) = some (a, rest ++ more) := by
  obtain ⟨taken, rfl, again⟩ := settled.taken h
  rw [List.append_assoc]
  exact again (rest ++ more)

theorem eq_none_of_append {a : α} (settled : r.Settled) {front more : Octets}
    (h : r (front ++ more) = some (a, [])) (some : more ≠ []) : r front = none := by
  rcases early : r front with _ | ⟨a', rest⟩
  · rfl
  · have later := settled.append early more
    rw [h, Option.some.injEq, Prod.mk.injEq] at later
    exact absurd (List.append_eq_nil_iff.1 later.2.symm).2 some

end Settled

namespace Trims

variable {r : Read α}

theorem bind {f : α → Read β} (first : r.Trims) (next : ∀ a, (f a).Trims) : (r >>= f).Trims where
  suffix h := by
    obtain ⟨a, mid, front, back⟩ := bind_eq_some_iff.1 h
    exact ((next a).suffix back).trans (first.suffix front)

theorem upTo {r : Read Bool} (each : r.Trims) : (Read.upTo r).Trims where
  suffix {bs u rest} h := by
    have go : ∀ fuel bs, Read.upTo.go r fuel bs = some (u, rest) → rest <:+ bs := by
      intro fuel
      induction fuel with
      | zero => exact nofun
      | succ fuel ih =>
        intro bs h
        rw [Read.upTo.go] at h
        split at h
        next => contradiction
        next mid front =>
          obtain ⟨-, rfl⟩ := Prod.mk.inj (Option.some.inj h)
          exact each.suffix front
        next mid front => exact (ih mid h).trans (each.suffix front)
    exact go bs.length bs h

end Trims
end Read

namespace Lenient
open Read

theorem longNumber_eq_some_iff {n : Nat} :
    longNumber bs = some (n, rest) ↔ ∃ marked last, (∀ b ∈ marked, 0x80 ≤ b) ∧ ¬ 0x80 ≤ last ∧
      marked.length < 5 ∧ bs = marked ++ last :: rest ∧
      n = Octets.toNatBase128 (marked ++ [last]) % Octets.capacity 4 := by
  constructor
  · intro h
    unfold longNumber at h
    dsimp only at h
    have split_run : bs.takeWhile (0x80 ≤ ·) ++ bs.dropWhile (0x80 ≤ ·) = bs :=
      List.takeWhile_append_dropWhile
    have behind : bs.drop (bs.takeWhile (0x80 ≤ ·)).length = bs.dropWhile (0x80 ≤ ·) := by
      calc bs.drop (bs.takeWhile (0x80 ≤ ·)).length
          = (bs.takeWhile (0x80 ≤ ·) ++ bs.dropWhile (0x80 ≤ ·)).drop
              (bs.takeWhile (0x80 ≤ ·)).length := by rw [split_run]
        _ = bs.dropWhile (0x80 ≤ ·) := List.drop_left
    rw [behind] at h
    split at h
    next last rest' back =>
      split at h
      next few =>
        obtain ⟨rfl, rfl⟩ := Prod.mk.inj (Option.some.inj h)
        have unmarked := List.head_dropWhile_not (fun b : UInt8 => decide (0x80 ≤ b))
          (l := bs) (by rw [back]; exact List.cons_ne_nil _ _)
        simp only [back, List.head_cons, decide_eq_false_iff_not] at unmarked
        refine ⟨_, last, fun b mem => ?_, unmarked, few, ?_, rfl⟩
        · simpa using List.mem_takeWhile_imp mem
        · rw [← back, split_run]
      next => contradiction
    next => contradiction
  · rintro ⟨marked, last, high, low, few, rfl, rfl⟩
    have run : (marked ++ last :: rest).takeWhile (0x80 ≤ ·) = marked := by
      rw [List.takeWhile_append_of_pos fun b mem => decide_eq_true (high b mem),
        List.takeWhile_cons_of_neg (by simpa using low), List.append_nil]
    unfold longNumber
    simp only [run, List.drop_left, if_pos few]

theorem settled_longNumber : longNumber.Settled where
  taken h := by
    obtain ⟨marked, last, high, low, few, rfl, rfl⟩ := longNumber_eq_some_iff.1 h
    refine ⟨marked ++ [last], List.append_cons .., fun more => ?_⟩
    rw [List.append_assoc]
    exact longNumber_eq_some_iff.2 ⟨marked, last, high, low, few, rfl, rfl⟩

theorem settled_tag : tag.Settled := by
  refine Settled.octet.bind fun b => ?_
  dsimp only
  split
  · exact settled_longNumber.bind fun _ => .pure _
  · exact (Settled.pure _).bind fun _ => .pure _

theorem settled_length : length.Settled := by
  refine Settled.octet.bind fun b => .ite (.pure _) (.ite (.pure _) ?_)
  refine (Settled.guard _).bind fun _ => (Settled.take _).bind fun digits => ?_
  exact (Settled.guard _).bind fun _ => .pure _

theorem settled_openHeader : openHeader.Settled := by
  refine settled_tag.bind fun t => settled_length.bind fun n => ?_
  exact (Settled.guard _).bind fun _ => .pure _

theorem settled_header : header.Settled := by
  refine settled_openHeader.bind fun (t, n) => ?_
  exact (Settled.lift n).bind fun _ => .pure _

def tagged : Read (Tag × Octets) := do
  let (t, n) ← header
  return (t, ← Read.take n)

theorem tagged_eq_some_iff {t : Tag} {content : Octets} :
    tagged bs = some ((t, content), rest) ↔
      header bs = some ((t, content.length), content ++ rest) := by
  unfold tagged
  rw [bind_eq_some_iff]
  constructor
  · rintro ⟨⟨t', n⟩, mid, front, h⟩
    obtain ⟨content', mid', back, h⟩ := bind_eq_some_iff.1 h
    obtain ⟨same, rfl⟩ := pure_eq_some_iff.1 h
    obtain ⟨rfl, rfl⟩ := Prod.mk.inj same
    obtain ⟨rfl, rfl⟩ := take_eq_some_iff.1 back
    exact front
  · intro front
    exact ⟨_, _, front, bind_eq_some_iff.2 ⟨content, rest, take_eq_some_iff.2 ⟨rfl, rfl⟩, rfl⟩⟩

theorem element_eq_some_iff_tagged {e : Element} :
    element bs = some (e, rest) ↔
      tagged bs = some ((e.tag, e.content), rest) ∧
        bs.take (bs.length - rest.length) = e.encoding := by
  obtain ⟨t, content, encoding⟩ := e
  rw [element, ← tagged]
  rcases tagged bs with _ | ⟨⟨t', content'⟩, rest'⟩
  · simp
  · simp only [Option.some.injEq, Prod.mk.injEq, Element.mk.injEq]
    constructor
    · rintro ⟨⟨rfl, rfl, rfl⟩, rfl⟩
      exact ⟨⟨⟨rfl, rfl⟩, rfl⟩, rfl⟩
    · rintro ⟨⟨⟨rfl, rfl⟩, rfl⟩, rfl⟩
      exact ⟨⟨rfl, rfl, rfl⟩, rfl⟩

theorem element_eq_some_iff {e : Element} :
    element bs = some (e, rest) ↔ ∃ head, e.encoding = head ++ e.content ∧
      bs = e.encoding ++ rest ∧
      ∀ more, header (head ++ more) = some ((e.tag, e.content.length), more) := by
  rw [element_eq_some_iff_tagged, tagged_eq_some_iff]
  constructor
  · rintro ⟨front, cut⟩
    obtain ⟨head, rfl, again⟩ := settled_header.taken front
    have encoding : head ++ e.content = e.encoding := by
      rw [← cut, ← List.append_assoc, List.length_append, Nat.add_sub_cancel, List.take_left]
    exact ⟨head, encoding.symm, by rw [← encoding, List.append_assoc], again⟩
  · rintro ⟨head, encoding, rfl, again⟩
    rw [List.length_append, Nat.add_sub_cancel, List.take_left, encoding, List.append_assoc]
    exact ⟨again _, rfl⟩

theorem settled_element : element.Settled where
  taken h := by
    obtain ⟨head, encoding, whole, again⟩ := element_eq_some_iff.1 h
    refine ⟨_, whole, fun more => ?_⟩
    exact element_eq_some_iff.2 ⟨head, encoding, rfl, again⟩

theorem settled_expect (number : Nat) : (expect number).Settled :=
  settled_element.bind fun _ => (Settled.guard _).bind fun _ => .pure _

theorem element_of_expect {number : Nat} {e : Element} (h : expect number bs = some (e, rest)) :
    element bs = some (e, rest) := by
  obtain ⟨e', mid, read, h⟩ := bind_eq_some_iff.1 h
  obtain ⟨_, _, passed, h⟩ := bind_eq_some_iff.1 h
  obtain ⟨-, rfl⟩ := guard_eq_some_iff.1 passed
  obtain ⟨rfl, rfl⟩ := pure_eq_some_iff.1 h
  exact read

theorem inside_eq_some_iff {number : Nat} {r : Read α} {a : α} :
    inside number r bs = some (a, rest) ↔
      ∃ e left, expect number bs = some (e, rest) ∧ r e.content = some (a, left) := by
  unfold inside
  rw [bind_eq_some_iff]
  constructor
  · rintro ⟨e, mid, front, h⟩
    obtain ⟨⟨a', left⟩, mid', read, h⟩ := bind_eq_some_iff.1 h
    obtain ⟨content, rfl⟩ := lift_eq_some_iff.1 read
    obtain ⟨rfl, rfl⟩ := pure_eq_some_iff.1 h
    exact ⟨e, left, front, content⟩
  · rintro ⟨e, left, front, content⟩
    refine ⟨e, rest, front, bind_eq_some_iff.2 ⟨(a, left), rest, ?_, rfl⟩⟩
    exact lift_eq_some_iff.2 ⟨content, rfl⟩

theorem settled_inside (number : Nat) (r : Read α) : (inside number r).Settled := by
  refine (settled_expect number).bind fun e => (Settled.lift _).bind fun (a, _) => .pure a

theorem content_of_inside {number : Nat} {r : Read α} {a : α}
    (h : inside number r bs = some (a, rest)) :
    ∃ front content left, bs = front ++ content ++ rest ∧ r content = some (a, left) := by
  obtain ⟨e, left, front, read⟩ := inside_eq_some_iff.1 h
  obtain ⟨head, encoding, rfl, -⟩ := element_eq_some_iff.1 (element_of_expect front)
  exact ⟨head, e.content, left, by rw [encoding], read⟩

theorem trims_contextField (number : Nat) : (contextField number).Trims where
  suffix {bs content rest} h := by
    unfold contextField at h
    split at h
    · obtain ⟨-, rfl⟩ := Prod.mk.inj (Option.some.inj h)
      exact List.suffix_rfl
    · split at h
      next => contradiction
      next =>
        split at h
        · obtain ⟨-, rfl⟩ := Prod.mk.inj (Option.some.inj h)
          exact List.suffix_rfl
        · split at h
          next e rest' read =>
            split at h
            · obtain ⟨-, rfl⟩ := Prod.mk.inj (Option.some.inj h)
              exact settled_element.trims.suffix read
            · contradiction
          next => contradiction

theorem trims_passContent (depth : Nat) (h : Tag × Option Nat) : (passContent depth h).Trims := by
  induction depth generalizing h with
  | zero => exact ⟨nofun⟩
  | succ depth ih =>
    rcases h with ⟨t, _ | n⟩
    · refine Trims.bind ?_ fun _ => (Settled.pure _).trims
      exact Trims.upTo (settled_openHeader.trims.bind ih)
    · exact ((Settled.take n).bind fun _ => .pure _).trims

theorem trims_pass (number : Nat) : (pass number).Trims := by
  refine settled_openHeader.trims.bind fun h => (trims_passContent 50 h).bind fun _ => ?_
  exact (Settled.guard _).trims

end Lenient
end HandshakeAuth.Der
