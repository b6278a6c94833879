import TermBridge.Forward.Calls

namespace TermBridge

namespace WriteReply

theorem taken_append_drop (reply : WriteReply) (offered : Bytes) :
    reply.taken offered ++ offered.drop (reply.taken offered).length = offered := by
  cases reply with
  | takeAll => simp [taken]
  | takeUpTo n => rw [taken, List.length_take, ← List.drop_eq_drop_min, List.take_append_drop]
  | fail kind => simp [taken]

theorem taken_of_givesUp {reply : WriteReply} (h : reply.givesUp = true) (offered : Bytes) :
    reply.taken offered = [] := by
  cases reply with
  | takeAll => exact Bool.noConfusion h
  | takeUpTo n =>
    have hn : n = 0 := by simpa [givesUp] using h
    simp [taken, hn]
  | fail kind => rfl

end WriteReply

namespace Sink

theorem taken_write (s : Sink) (offered : Bytes) :
    (s.write offered).taken = s.taken ++ s.nextWrite.taken offered := rfl

theorem take_nil (s : Sink) : s.take [] = s := by
  simp [take]

theorem writeUnder_setPlan (s : Sink) (old plan : List WriteReply) (chunk : Bytes) :
    ({ s with writePlan := old } : Sink).writeUnder plan chunk = s.writeUnder plan chunk := by
  induction plan generalizing s chunk with
  | nil => cases chunk <;> rfl
  | cons reply plan ih =>
    cases chunk with
    | nil => rfl
    | cons b bytes =>
      cases reply with
      | takeAll => rfl
      | takeUpTo n =>
        cases n with
        | zero => rfl
        | succ n => exact ih ((s.offer (b :: bytes)).take ((b :: bytes).take (n + 1))) _
      | fail kind =>
        cases kind with
        | interrupted => exact ih (s.offer (b :: bytes)) _
        | _ => rfl

theorem writeAll_nil (s : Sink) : s.writeAll [] = (s, true) := by
  cases hp : s.writePlan <;> simp [writeAll, writeUnder]

-- The first write, and writing the rest unless the first write gives up.
theorem writeAll_of_ne_nil (s : Sink) {chunk : Bytes} (h : chunk ≠ []) :
    s.writeAll chunk =
      if s.nextWrite.givesUp then (s.write chunk, false)
      else (s.write chunk).writeAll (chunk.drop (s.nextWrite.taken chunk).length) := by
  obtain ⟨b, bytes, rfl⟩ := List.exists_cons_of_ne_nil h
  cases hp : s.writePlan with
  | nil => simp [writeAll, writeUnder, nextWrite, hp, WriteReply.givesUp, WriteReply.taken, write]
  | cons reply plan =>
    have hnext : s.nextWrite = reply := by simp [nextWrite, hp]
    simp only [writeAll, hp, hnext, write, List.tail_cons, writeUnder_setPlan]
    cases reply with
    | takeAll => simp [writeUnder, WriteReply.givesUp, WriteReply.taken]
    | takeUpTo n =>
      cases n with
      | zero => simp [writeUnder, WriteReply.givesUp, WriteReply.taken, take_nil]
      | succ n =>
        simp only [writeUnder, WriteReply.givesUp, WriteReply.taken, List.length_take,
          ← List.drop_eq_drop_min]
        rfl
    | fail kind =>
      cases kind <;> simp [writeUnder, WriteReply.givesUp, WriteReply.taken, take_nil]

-- Behind the end of the plan one write takes all, so the writes come to an end.
theorem writeAll_induction {motive : Sink → Bytes → Prop} (nil : ∀ s, motive s [])
    (givesUp : ∀ s chunk, chunk ≠ [] → s.nextWrite.givesUp = true → motive s chunk)
    (goesOn : ∀ s chunk, chunk ≠ [] → s.nextWrite.givesUp = false →
      motive (s.write chunk) (chunk.drop (s.nextWrite.taken chunk).length) → motive s chunk)
    (s : Sink) (chunk : Bytes) : motive s chunk := by
  induction hp : s.writePlan generalizing s chunk with
  | nil =>
    by_cases hc : chunk = []
    · rw [hc]
      exact nil s
    · have hnext : s.nextWrite = .takeAll := by simp [nextWrite, hp]
      refine goesOn s chunk hc (by rw [hnext]; rfl) ?_
      rw [hnext, WriteReply.taken, List.drop_length]
      exact nil _
  | cons reply plan ih =>
    by_cases hc : chunk = []
    · rw [hc]
      exact nil s
    · cases hg : s.nextWrite.givesUp with
      | true => exact givesUp s chunk hc hg
      | false => exact goesOn s chunk hc hg (ih _ _ (by simp [write, hp]))

theorem flush_eq (s : Sink) :
    s.flush =
      ({ s with flushes := s.flushes + 1, flushPlan := s.flushPlan.tail }, s.nextFlush.isNone) := by
  cases hf : s.flushPlan <;> simp [flush, nextFlush, hf]

-- What the sink takes of a chunk is its first part.

theorem taken_writeAll (s : Sink) (chunk : Bytes) :
    ∃ first rest, chunk = first ++ rest ∧ (s.writeAll chunk).1.taken = s.taken ++ first ∧
      ((s.writeAll chunk).2 = true → rest = []) := by
  induction s, chunk using writeAll_induction with
  | nil s => exact ⟨[], [], rfl, by simp [writeAll_nil], fun _ => rfl⟩
  | givesUp s chunk hc hg =>
    refine ⟨[], chunk, rfl, ?_⟩
    simp [writeAll_of_ne_nil s hc, hg, taken_write, WriteReply.taken_of_givesUp hg]
  | goesOn s chunk hc hg ih =>
    obtain ⟨first, rest, hchunk, htaken, hall⟩ := ih
    refine ⟨s.nextWrite.taken chunk ++ first, rest, ?_, ?_⟩
    · rw [List.append_assoc, ← hchunk, WriteReply.taken_append_drop]
    · rw [writeAll_of_ne_nil s hc, if_neg (by simp [hg])]
      exact ⟨by rw [htaken, taken_write, List.append_assoc], hall⟩

theorem taken_put (s : Sink) (chunk : Bytes) :
    ∃ first rest, chunk = first ++ rest ∧ (s.put chunk).1.taken = s.taken ++ first ∧
      ((s.put chunk).2 = true → rest = []) := by
  obtain ⟨first, rest, hchunk, htaken, hall⟩ := s.taken_writeAll chunk
  refine ⟨first, rest, hchunk, ?_⟩
  unfold put
  split
  next written hw =>
    rw [hw] at htaken hall
    exact ⟨by rw [flush_eq]; exact htaken, fun _ => hall rfl⟩
  next written hw =>
    rw [hw] at htaken
    exact ⟨htaken, fun h => Bool.noConfusion h⟩

-- A sink that will take whatever it is offered, if not at the first attempt.

def Accepting (s : Sink) : Prop :=
  (∀ reply ∈ s.writePlan, reply.givesUp = false) ∧ ∀ failure ∈ s.flushPlan, failure = none

theorem Accepting.write {s : Sink} (h : s.Accepting) (offered : Bytes) : (s.write offered).Accepting :=
  ⟨fun reply hreply => h.1 reply (List.mem_of_mem_tail hreply), h.2⟩

theorem Accepting.nextWrite {s : Sink} (h : s.Accepting) : s.nextWrite.givesUp = false := by
  rw [Sink.nextWrite]
  cases hp : s.writePlan with
  | nil => rfl
  | cons reply plan => exact h.1 reply (by rw [hp]; exact List.mem_cons_self)

theorem Accepting.writeAll {s : Sink} (h : s.Accepting) (chunk : Bytes) :
    (s.writeAll chunk).2 = true ∧ (s.writeAll chunk).1.Accepting := by
  induction s, chunk using writeAll_induction with
  | nil s => rw [writeAll_nil]; exact ⟨rfl, h⟩
  | givesUp s chunk hc hg => simp [h.nextWrite] at hg
  | goesOn s chunk hc hg ih =>
    rw [writeAll_of_ne_nil s hc, if_neg (by simp [hg])]
    exact ih (h.write chunk)

theorem Accepting.put {s : Sink} (h : s.Accepting) (chunk : Bytes) :
    (s.put chunk).2 = true ∧ (s.put chunk).1.taken = s.taken ++ chunk ∧ (s.put chunk).1.Accepting := by
  obtain ⟨hall, haccepting⟩ := h.writeAll chunk
  have hput : s.put chunk = (s.writeAll chunk).1.flush := by
    rw [Sink.put]
    split
    next written hw => rw [hw]
    next written hw => simp [hw] at hall
  have hworked : (s.put chunk).2 = true := by
    rw [hput, flush_eq, nextFlush]
    cases hf : (s.writeAll chunk).1.flushPlan with
    | nil => rfl
    | cons failure plan =>
      have hnone : failure = none := haccepting.2 failure (by rw [hf]; exact List.mem_cons_self)
      simp [hnone]
  obtain ⟨first, rest, hchunk, htaken, hrest⟩ := s.taken_put chunk
  refine ⟨hworked, ?_, ?_⟩
  · rw [htaken, hchunk, hrest hworked, List.append_nil]
  · rw [hput, flush_eq]
    exact ⟨haccepting.1, fun failure hfailure => haccepting.2 failure (List.mem_of_mem_tail hfailure)⟩

end Sink

end TermBridge
