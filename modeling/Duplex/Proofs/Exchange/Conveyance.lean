import Duplex.Proofs.Exchange.Turns

/-!
What becomes of the items that the sink is given. Each is put on the wire as one frame, in their
order, with nothing in between but answers to the peer; and a flush that comes to its end leaves
nothing of them behind.
-/

namespace Duplex

open History Wire Endpoint

variable {ι : Type}

namespace Wire

/-- A frame that an end may send of its own accord. -/
def Frame.IsReply (f : Frame) : Prop :=
  f.header.opcode = Opcode.pong ∨ f.header.opcode = Opcode.close

/-- The items given are frames on their way, in their order and each once, with nothing but replies
in between. Those given before the last flush have been put on the wire, the others have been or
wait in the output. -/
def Endpoint.Conveys (e : Endpoint) (flushed given : List Item) (put : Octets) : Prop :=
  ∃ done rest, Laced Frame.IsReply (flushed.map .ofItem) done ∧
    Laced Frame.IsReply (given.map .ofItem) (done ++ rest) ∧
    put ++ e.output = e.encode (done ++ rest) ∧ e.encode done <+: put

theorem Endpoint.Conveys.finish {e : Endpoint} {flushed given : List Item} {put : Octets}
    (conveys : e.Conveys flushed given put) (empty : e.output = []) :
    e.Conveys given given put := by
  obtain ⟨done, rest, -, laced, wired, -⟩ := conveys
  rw [empty, List.append_nil] at wired
  exact ⟨done ++ rest, [], laced, by simpa using laced, by simpa [empty] using wired,
    wired ▸ List.prefix_rfl⟩

end Wire

namespace Link

variable {gone : Prop} {l k : Link} {cs : List Contact} {c : Option Contact} {put b : Octets}
  {flushed given : List Item} {fs : List Wire.Frame}

theorem conveys_added (items : List Item) (conveys : l.endpoint.Conveys flushed given put)
    (emits : Emits l.endpoint l.outbound fs k.endpoint k.outbound)
    (laced : Laced Frame.IsReply (items.map .ofItem) fs) :
    k.endpoint.Conveys flushed (given ++ items) (put ++ l.added k) := by
  obtain ⟨done, rest, settled, all, wired, written⟩ := conveys
  obtain ⟨role, b, outbound, moved⟩ := emits
  have added : l.added k = b := by simp [added, outbound]
  refine ⟨done, rest ++ fs, settled, ?_, ?_, ?_⟩
  · rw [List.map_append, ← List.append_assoc]
    exact all.append laced
  · rw [added, List.append_assoc, moved, ← List.append_assoc, wired, encode_role role,
      ← encode_append, List.append_assoc]
  · rw [encode_role role]
    exact written.trans (List.prefix_append _ _)

structure IsConveying (cs : List Contact) (put : Octets) (l : Link) : Prop where
  replies : ∀ f ∈ l.endpoint.queued, f.IsReply
  pongs : l.endpoint.stage = .active → l.endpoint.QueuesPongs
  conveys : l.endpoint.Conveys (Contact.settled cs) (Contact.given cs) put

namespace IsConveying

theorem isReply_of_due (ok : IsConveying cs put l) {f : Wire.Frame} (due : l.endpoint.IsDue f) :
    f.IsReply := by
  rcases due with queued | ⟨-, pong⟩
  · exact ok.replies f queued
  · exact .inl pong

theorem reads (ok : IsConveying cs put l) {item : Option Item}
    (reads : Reads l.endpoint l.outbound k.endpoint k.outbound item) :
    IsConveying cs (put ++ l.added k) k := by
  refine ⟨fun f mem => ?_, fun active f mem => ?_, ?_⟩
  · cases reads.queued f mem with
    | inl due => exact ok.isReply_of_due due
    | inr answer =>
      obtain ⟨body, rfl⟩ := answer
      exact .inr (opcode_close body)
  · obtain ⟨before, carries⟩ := reads.carries active
    rcases carries.queued f mem with queued | ⟨-, pong⟩
    · exact ok.pongs before f queued
    · exact pong
  · obtain ⟨fs, emits, due⟩ := reads.emits
    have laced : Laced Frame.IsReply ([].map .ofItem) fs :=
      .of_own fun f mem => ok.isReply_of_due (due f mem)
    simpa using conveys_added [] ok.conveys emits laced

theorem sends (ok : IsConveying cs put l) {item : Item}
    (sent : l.endpoint.send item l.outbound = (k.endpoint, k.outbound, none)) :
    IsConveying (cs ++ [.sent item none]) (put ++ l.added k) k := by
  obtain ⟨idle, fs, emits, laced⟩ := send_laced ok.pongs sent
  refine ⟨by simp [idle], by simp [QueuesPongs, idle], ?_⟩
  rw [Contact.settled_snoc, Contact.given_snoc]
  exact conveys_added [item] ok.conveys emits (laced.mono fun f => ok.isReply_of_due)

theorem flushes (ok : IsConveying cs put l) {r : Flush}
    (flushed : l.endpoint.flush l.outbound = (k.endpoint, k.outbound, r)) :
    IsConveying (cs ++ [.flushed r]) (put ++ l.added k) k := by
  obtain ⟨emits, -, idle⟩ := flush_emits flushed
  have laced : Laced Frame.IsReply ([].map .ofItem) l.endpoint.queued.toList :=
    .of_own fun f mem => ok.replies f (by simpa using mem)
  have moved := conveys_added [] ok.conveys emits laced
  refine ⟨by simp [idle], by simp [QueuesPongs, idle], ?_⟩
  rw [Contact.settled_snoc, Contact.given_snoc]
  rw [List.append_nil] at moved
  have empty := (flush_result flushed).1
  cases r with
  | done => simpa [Contact.isFlush, Contact.item?] using moved.finish (empty (.inl rfl))
  | finished => simpa [Contact.isFlush, Contact.item?] using moved.finish (empty (.inr rfl))
  | blocked | failed => simpa [Contact.isFlush, Contact.item?] using moved

theorem turns (ok : IsConveying cs put l) (turns : Turns gone l k c b)
    (succeeds : ∀ d ∈ c, d.fails = false) : IsConveying (cs ++ c.toList) (put ++ b) k := by
  cases turns with
  | keeps keeps =>
    obtain ⟨replies, pongs, conveys⟩ := ok
    rw [← keeps.endpoint] at replies pongs conveys
    simpa using IsConveying.mk replies pongs conveys
  | reads _ _ _ read => simpa using ok.reads (read_reads read)
  | sends _ _ item r sent =>
    cases r with
    | none => exact ok.sends sent
    | some e => simp [Contact.fails] at succeeds
  | flushes _ r flushed => exact ok.flushes flushed

end IsConveying

end Link

namespace Exchange

variable [DecidableEq ι] {x y : Exchange ι} {ps : List (Passage ι)}

theorem Passing.conveys (passing : Passing x ps y)
    (fresh : x.link.endpoint = { role := x.link.endpoint.role })
    (succeeds : ∀ c ∈ contacts (ps.map Passage.deed), c.fails = false) :
    y.link.endpoint.Conveys (History.flushed (ps.map Passage.deed)) (sent (ps.map Passage.deed))
      (onWire ps) := by
  have start : Link.IsConveying [] [] x.link := by
    refine ⟨?_, fun _ => ?_, [], [], .nil, .nil, ?_, List.prefix_rfl⟩ <;> rw [fresh]
    · simp
    · simp [QueuesPongs]
    · rfl
  -- The contacts so far are among those of the whole run, of which it is known that none fails.
  have kept := passing.keeps_contacts
    (P := fun cs put l => (∀ c ∈ cs, c.fails = false) → Link.IsConveying cs put l)
    (fun before turns all => by
      obtain ⟨earlier, last⟩ := List.forall_mem_append.mp all
      exact (before earlier).turns turns (by simpa using last))
    (fun _ => trivial) [] fun _ => start
  exact (kept succeeds).conveys

end Exchange

end Duplex
