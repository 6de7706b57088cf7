import HandshakeAuth.Proofs.Wire.Cursor

/-! Readers over one buffer and over pieces of it. Any of them may be asked next, and a piece that
one reads can be given to a reader of its own. -/

namespace HandshakeAuth.Wire

inductive Query where
  | take (n : UInt64)
  | number (width : Width)
  | vector (width : Width)
  | sub (n : UInt64)
  | isEmpty
  | expectEnd (part : String)

inductive Reply where
  | octets (bs : Octets)
  | number (n : Nat)
  | reader (bs : Octets)
  | flag (b : Bool)
  | done

theorem enough_or_short (n : Nat) (bs : Octets) :
    (∃ taken rest, bs = taken ++ rest ∧ taken.length = n) ∨ bs.length < n := by
  rcases Nat.lt_or_ge bs.length n with short | long
  · exact .inr short
  · exact .inl ⟨bs.take n, bs.drop n, (List.take_append_drop n bs).symm,
      List.length_take_of_le long⟩

namespace Query

def read : Query → Read Reply
  | take n => do return .octets (← Read.take n.toNat)
  | number width => do return .number (← Read.number width.octets)
  | vector width => do return .octets (← Read.vector width.octets)
  | sub n => do return .reader (← Read.take n.toNat)
  | isEmpty => do return .flag (← Read.isEmpty)
  | expectEnd part => do
    Read.expectEnd part
    return .done

def move : Query → Cursor.Move Reply
  | take n => do return .octets (← Cursor.Move.take n)
  | number width => do return .number (← Cursor.Move.number width).toNat
  | vector width => do return .octets (← Cursor.Move.vector width)
  | sub n => do return .reader (← Cursor.Move.take n)
  | isEmpty => do return .flag (← Cursor.Move.isEmpty)
  | expectEnd part => do
    Cursor.Move.expectEnd part
    return .done

theorem follows (query : Query) : Cursor.Follows query.move id query.read := by
  cases query with
  | take n => exact (Cursor.Follows.take n).bind fun bs _ _ _ => .pure id (Reply.octets bs)
  | number width =>
    exact (Cursor.Follows.number width).bind fun n _ _ _ => .pure id (Reply.number n.toNat)
  | vector width =>
    exact (Cursor.Follows.vector width).bind fun bs _ _ _ => .pure id (Reply.octets bs)
  | sub n => exact (Cursor.Follows.take n).bind fun bs _ _ _ => .pure id (Reply.reader bs)
  | isEmpty => exact Cursor.Follows.isEmpty.bind fun b _ _ _ => .pure id (Reply.flag b)
  | expectEnd part => exact (Cursor.Follows.expectEnd part).bind fun _ _ _ _ => .pure id Reply.done

/-- How a query is served: the octets it takes, those it leaves, and its answer. -/
inductive Serves : Query → (taken rest : Octets) → Except AuthError Reply → Prop
  | take {n : UInt64} {taken rest : Octets} (whole : taken.length = n.toNat) :
    Serves (.take n) taken rest (.ok (.octets taken))
  | takeShort {n : UInt64} {rest : Octets} (short : rest.length < n.toNat) :
    Serves (.take n) [] rest (.error .truncatedMessage)
  | number {width : Width} {taken rest : Octets} (whole : taken.length = width.octets) :
    Serves (.number width) taken rest (.ok (.number (Octets.toNat taken)))
  | numberShort {width : Width} {rest : Octets} (short : rest.length < width.octets) :
    Serves (.number width) [] rest (.error .truncatedMessage)
  | vector {width : Width} {field content rest : Octets} (whole : field.length = width.octets)
    (announced : content.length = Octets.toNat field) :
    Serves (.vector width) (field ++ content) rest (.ok (.octets content))
  | fieldShort {width : Width} {rest : Octets} (short : rest.length < width.octets) :
    Serves (.vector width) [] rest (.error .truncatedMessage)
  | contentShort {width : Width} {field rest : Octets} (whole : field.length = width.octets)
    (short : rest.length < Octets.toNat field) :
    Serves (.vector width) field rest (.error .truncatedMessage)
  | sub {n : UInt64} {taken rest : Octets} (whole : taken.length = n.toNat) :
    Serves (.sub n) taken rest (.ok (.reader taken))
  | subShort {n : UInt64} {rest : Octets} (short : rest.length < n.toNat) :
    Serves (.sub n) [] rest (.error .truncatedMessage)
  | isEmpty {rest : Octets} : Serves .isEmpty [] rest (.ok (.flag rest.isEmpty))
  | expectEnd {part : String} : Serves (.expectEnd part) [] [] (.ok .done)
  | notEnd {part : String} {rest : Octets} (more : rest ≠ []) :
    Serves (.expectEnd part) [] rest (.error (.trailing rest.length part))

theorem exists_serves (query : Query) (bs : Octets) :
    ∃ taken rest reply, bs = taken ++ rest ∧ Read.answer query.read bs = (reply, rest) ∧
      Serves query taken rest reply := by
  have nothing : bs = [] ++ bs := rfl
  cases query with
  | take n =>
    rcases enough_or_short n.toNat bs with ⟨taken, rest, rfl, whole⟩ | short
    · exact ⟨taken, rest, _, rfl, answer_bind_of_ok (take_append whole), .take whole⟩
    · exact ⟨_, _, _, nothing, answer_bind_of_error (take_of_lt short), .takeShort short⟩
  | number width =>
    rcases enough_or_short width.octets bs with ⟨taken, rest, rfl, whole⟩ | short
    · exact ⟨taken, rest, _, rfl, answer_bind_of_ok (number_append whole), .number whole⟩
    · exact ⟨_, _, _, nothing, answer_bind_of_error (number_of_lt short), .numberShort short⟩
  | vector width =>
    rcases enough_or_short width.octets bs with ⟨field, behind, rfl, whole⟩ | short
    · have announcing : Read.answer (Read.vector width.octets) (field ++ behind) =
          Read.answer (Read.take (Octets.toNat field)) behind :=
        answer_bind_of_ok (number_append whole)
      rcases enough_or_short (Octets.toNat field) behind with ⟨content, rest, rfl, full⟩ | missing
      · rw [take_append full] at announcing
        refine ⟨field ++ content, rest, _, ?_, answer_bind_of_ok announcing, .vector whole full⟩
        rw [List.append_assoc]
      · rw [take_of_lt missing] at announcing
        exact ⟨field, behind, _, rfl, answer_bind_of_error announcing,
          .contentShort whole missing⟩
    · have announcing : Read.answer (Read.vector width.octets) bs =
          (.error .truncatedMessage, bs) := answer_bind_of_error (number_of_lt short)
      exact ⟨_, _, _, nothing, answer_bind_of_error announcing, .fieldShort short⟩
  | sub n =>
    rcases enough_or_short n.toNat bs with ⟨taken, rest, rfl, whole⟩ | short
    · exact ⟨taken, rest, _, rfl, answer_bind_of_ok (take_append whole), .sub whole⟩
    · exact ⟨_, _, _, nothing, answer_bind_of_error (take_of_lt short), .subShort short⟩
  | isEmpty => exact ⟨_, _, _, nothing, rfl, .isEmpty⟩
  | expectEnd part =>
    rcases bs with _ | ⟨b, bs⟩
    · exact ⟨_, _, _, nothing, rfl, .expectEnd⟩
    · have more : b :: bs ≠ [] := List.cons_ne_nil b bs
      exact ⟨_, _, _, nothing, answer_bind_of_error (answer_expectEnd_of_ne more), .notEnd more⟩

theorem Serves.eq_taken_of_reader {query : Query} {taken rest bs : Octets}
    (serves : query.Serves taken rest (.ok (.reader bs))) : bs = taken := by
  cases serves with
  | sub whole => rfl

end Query

structure Event where
  reader : Nat
  query : Query
  before : Cursor
  reply : Except AuthError Reply
  after : Cursor

namespace Event

def taken (e : Event) : Octets :=
  e.before.buffer.extract e.before.place.toNat e.after.place.toNat

structure Served (e : Event) : Prop where
  buffer : e.after.buffer = e.before.buffer
  place : e.after.place.toNat = e.before.place.toNat + e.taken.length
  left : e.before.left = e.taken ++ e.after.left
  answer : Read.answer e.query.read e.before.left = (e.reply, e.after.left)
  serves : e.query.Serves e.taken e.after.left e.reply

theorem served_of_move {e : Event} (sound : e.before.Sound)
    (moved : e.query.move e.before = (e.reply, e.after)) : e.Served ∧ e.after.Sound := by
  have follows := e.query.follows e.before sound
  rw [moved] at follows
  obtain ⟨buffer, sound', answer⟩ := follows
  dsimp only at buffer sound' answer
  have form : e.reply.map id = e.reply := by
    rcases e.reply with _ | _ <;> rfl
  rw [form] at answer
  obtain ⟨taken, rest, reply, split, answer', serves⟩ := e.query.exists_serves e.before.left
  obtain ⟨rfl, rfl⟩ := Prod.mk.inj (answer'.symm.trans answer)
  have within := sound.within
  have within' := sound'.within
  have lengths := congrArg List.length split
  have place : e.after.place.toNat = e.before.place.toNat + taken.length := by
    rw [buffer] at within'
    rw [List.length_append, Cursor.left, Cursor.left, List.length_drop, List.length_drop, buffer]
      at lengths
    omega
  have same : e.taken = taken := by
    rw [Event.taken, List.extract_eq_take_drop, place, Nat.add_sub_cancel_left]
    change e.before.left.take taken.length = taken
    rw [split, List.take_left]
  refine ⟨⟨buffer, ?_, ?_, answer, ?_⟩, sound'⟩ <;> rw [same]
  · exact place
  · exact split
  · exact serves

end Event

structure History where
  readers : List Cursor
  events : List Event

namespace History

def start (data : Octets) : History := { readers := [.start data], events := [] }

def opened : Except AuthError Reply → List Octets
  | .ok (.reader bs) => [bs]
  | _ => []

def record (history : History) (e : Event) : History where
  readers := history.readers.set e.reader e.after ++ (opened e.reply).map .start
  events := history.events ++ [e]

def ask (history : History) (asked : Nat × Query) : History :=
  match history.readers[asked.1]? with
  | none => history
  | some before =>
    let (reply, after) := asked.2.move before
    history.record { reader := asked.1, query := asked.2, before, reply, after }

def askAll (data : Octets) (asked : List (Nat × Query)) : History :=
  asked.foldl ask (start data)

def takenBy (history : History) (reader : Nat) : Octets :=
  (history.events.filter (·.reader = reader)).flatMap Event.taken

/-- Every query was served; each reader is within its buffer, which is what it has taken and what it
has left; and the buffers are the data and the pieces that were given away. -/
structure Orderly (data : Octets) (history : History) : Prop where
  sound : ∀ c ∈ history.readers, c.Sound
  served : ∀ e ∈ history.events, e.Served
  known : ∀ e ∈ history.events, e.reader < history.readers.length
  whole : ∀ reader c, history.readers[reader]? = some c →
    history.takenBy reader ++ c.left = c.buffer
  buffers : history.readers.map Cursor.buffer =
    data :: history.events.flatMap fun e => opened e.reply

variable {data : Octets} {history : History} {e : Event}

theorem takenBy_record (reader : Nat) :
    (history.record e).takenBy reader =
      history.takenBy reader ++ if e.reader = reader then e.taken else [] := by
  rw [takenBy, record, List.filter_append, List.flatMap_append]
  by_cases here : e.reader = reader <;> simp [takenBy, here]

theorem takenBy_of_new (known : ∀ e ∈ history.events, e.reader < history.readers.length)
    {reader : Nat} (new : history.readers.length ≤ reader) : history.takenBy reader = [] := by
  have none_asked : history.events.filter (·.reader = reader) = [] := by
    rw [List.filter_eq_nil_iff]
    intro e mem here
    have earlier := known e mem
    rw [decide_eq_true_iff] at here
    omega
  rw [takenBy, none_asked, List.flatMap_nil]

theorem mem_opened_iff {reply : Except AuthError Reply} {bs : Octets} :
    bs ∈ opened reply ↔ reply = .ok (.reader bs) := by
  unfold opened
  split
  next bs' =>
    rw [List.mem_singleton, Except.ok.injEq, Reply.reader.injEq]
    exact eq_comm
  next other => exact ⟨nofun, fun same => (other bs same).elim⟩

theorem sound_of_opened (before : e.before.Sound) (served : e.Served) {bs : Octets}
    (given : bs ∈ opened e.reply) : (Cursor.start bs).Sound := by
  have serves := served.serves
  rw [mem_opened_iff.1 given] at serves
  rw [serves.eq_taken_of_reader]
  refine .start (Nat.lt_of_le_of_lt ?_ before.counted)
  have part := congrArg List.length served.left
  rw [List.length_append, Cursor.left, List.length_drop] at part
  omega

theorem map_buffer_set {readers : List Cursor} (here : readers[e.reader]? = some e.before)
    (same : e.after.buffer = e.before.buffer) :
    (readers.set e.reader e.after).map Cursor.buffer = readers.map Cursor.buffer := by
  rw [List.map_set, same]
  apply List.ext_getElem?
  intro i
  by_cases asked : e.reader = i
  · subst asked
    rw [List.getElem?_set_self', List.getElem?_map, here]
    rfl
  · rw [List.getElem?_set_ne asked]

namespace Orderly

theorem start (counted : data.length < UInt64.size) : Orderly data (start data) where
  sound := List.forall_mem_singleton.2 (.start counted)
  served := List.forall_mem_nil _
  known := List.forall_mem_nil _
  whole reader c here := by
    obtain rfl | later := reader.eq_zero_or_pos
    · obtain rfl := Option.some.inj here
      rfl
    · rw [History.start, List.getElem?_eq_none later] at here
      contradiction
  buffers := rfl

theorem record (orderly : history.Orderly data)
    (here : history.readers[e.reader]? = some e.before) (served : e.Served)
    (sound : e.after.Sound) : (history.record e).Orderly data where
  sound c mem := by
    rcases List.mem_append.1 mem with old | new
    · rcases List.mem_or_eq_of_mem_set old with old | rfl
      · exact orderly.sound c old
      · exact sound
    · obtain ⟨bs, given, rfl⟩ := List.mem_map.1 new
      exact sound_of_opened (orderly.sound _ (List.mem_of_getElem? here)) served given
  served := List.forall_mem_append.2 ⟨orderly.served, List.forall_mem_singleton.2 served⟩
  known := by
    have inside : e.reader < history.readers.length := (List.getElem?_eq_some_iff.1 here).1
    have longer : history.readers.length ≤ (history.record e).readers.length := by
      rw [History.record, List.length_append, List.length_set]
      exact Nat.le_add_right _ _
    refine List.forall_mem_append.2 ⟨fun e' mem => ?_, List.forall_mem_singleton.2 ?_⟩
    · exact Nat.lt_of_lt_of_le (orderly.known e' mem) longer
    · exact Nat.lt_of_lt_of_le inside longer
  whole reader c stands := by
    have inside : e.reader < history.readers.length := (List.getElem?_eq_some_iff.1 here).1
    rw [takenBy_record]
    rcases Nat.lt_or_ge reader history.readers.length with old | new
    · rw [History.record, List.getElem?_append_left (by rwa [List.length_set])] at stands
      by_cases asked : e.reader = reader
      · subst asked
        rw [List.getElem?_set_self inside] at stands
        obtain rfl := Option.some.inj stands
        rw [if_pos rfl, List.append_assoc, ← served.left, served.buffer]
        exact orderly.whole _ _ here
      · rw [List.getElem?_set_ne asked] at stands
        rw [if_neg asked, List.append_nil]
        exact orderly.whole _ _ stands
    · have unasked : e.reader ≠ reader := by omega
      rw [History.record, List.getElem?_append_right (by rwa [List.length_set])] at stands
      obtain ⟨bs, given, rfl⟩ := List.mem_map.1 (List.mem_of_getElem? stands)
      rw [takenBy_of_new orderly.known new, if_neg unasked]
      rfl
  buffers := by
    have fresh : ((opened e.reply).map Cursor.start).map Cursor.buffer = opened e.reply := by
      rw [List.map_map]
      exact List.map_id _
    rw [History.record, List.map_append, map_buffer_set here served.buffer, orderly.buffers, fresh,
      List.flatMap_append, List.flatMap_singleton, List.cons_append]

theorem ask (orderly : history.Orderly data) (asked : Nat × Query) :
    (history.ask asked).Orderly data := by
  unfold History.ask
  split
  next => exact orderly
  next before here =>
    rcases moved : asked.2.move before with ⟨reply, after⟩
    have within := orderly.sound before (List.mem_of_getElem? here)
    obtain ⟨served, sound⟩ := Event.served_of_move
      (e := ⟨asked.1, asked.2, before, reply, after⟩) within moved
    exact orderly.record here served sound

theorem foldl_ask (orderly : history.Orderly data) (asked : List (Nat × Query)) :
    (asked.foldl History.ask history).Orderly data := by
  induction asked generalizing history with
  | nil => exact orderly
  | cons first later ih => exact ih (orderly.ask first)

end Orderly

/-- Whatever is asked of whichever reader, no place goes beyond its buffer and no difference below
zero. Each query is served by the rule for it, with the next octets of its reader; what a reader has
taken and what it has left is its buffer; and a reader of its own has for its buffer the octets that
the reader it comes from has passed. -/
theorem readers_lose_nothing (counted : data.length < UInt64.size) (asked : List (Nat × Query)) :
    (∀ c ∈ (askAll data asked).readers, c.place.toNat ≤ c.buffer.length ∧
      c.remaining.toNat = c.buffer.length - c.place.toNat) ∧
    (askAll data asked).Orderly data := by
  have orderly : (askAll data asked).Orderly data := (Orderly.start counted).foldl_ask asked
  refine ⟨fun c mem => ?_, orderly⟩
  have sound := orderly.sound c mem
  refine ⟨sound.within, ?_⟩
  rw [sound.toNat_remaining, Cursor.left, List.length_drop]

def nested : List (Nat × Query) :=
  [(0, .vector .one), (0, .sub 2), (1, .number .two), (1, .take 1), (0, .take 0xffffffffffffffff),
    (0, .vector .one), (0, .isEmpty)]

theorem readers_lose_nothing_nested :
    ([1, 7, 0, 9, 5] : Octets).length < UInt64.size ∧
    (askAll [1, 7, 0, 9, 5] nested).Orderly [1, 7, 0, 9, 5] ∧
    (askAll [1, 7, 0, 9, 5] nested).events.map Event.taken =
      [[1, 7], [0, 9], [0, 9], [], [], [5], []] := by
  have counted : ([1, 7, 0, 9, 5] : Octets).length < UInt64.size := by decide
  exact ⟨counted, (readers_lose_nothing counted nested).2, rfl⟩

end History
end HandshakeAuth.Wire
