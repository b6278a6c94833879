import TermBridge.KeyDump
import TermBridge.Proofs.Forward.Sink
import TermBridge.Proofs.Terminal.Unchanged

namespace TermBridge

namespace KeyDump

variable {reads rest unread : List KeyRead} {events during : List Event} {wrote : Bool}

-- The bytes of the reads before the first that returns none.
def chunksBefore : List KeyRead → List Bytes
  | .chunk first others :: rest => (first :: others) :: chunksBefore rest
  | _ => []

-- The chunks that are to be shown: those up to the first that begins with the end of the transmission, if there
-- is one.
def shownChunks (reads : List KeyRead) : List Bytes :=
  let chunks := chunksBefore reads
  chunks.take (chunks.findIdx (fun chunk => chunk.head? = some endOfTransmission) + 1)

theorem shownChunks_cons (first : UInt8) (others : Bytes) (rest : List KeyRead) :
    shownChunks (.chunk first others :: rest) =
      (first :: others) :: if first = endOfTransmission then [] else shownChunks rest := by
  by_cases hfirst : first = endOfTransmission <;>
    simp [shownChunks, chunksBefore, List.findIdx_cons, hfirst]

-- The byte that ends the dump does so at the beginning of a chunk only.
example : shownChunks [.chunk 97 [4], .chunk 4 [97], .chunk 98 []] = [[97, 4], [4, 97]] := by decide

def KeyRead.bytes? : KeyRead → Option Bytes
  | .chunk first others => some (first :: others)
  | _ => none

-- The dump ends with this read.
def KeyRead.ends : KeyRead → Bool
  | .chunk first _ => first = endOfTransmission
  | _ => true

-- The reads that are to be made. Behind the last of them the input has ended.
def due : List KeyRead → List KeyRead
  | [] => [.endOfInput]
  | answer :: rest => if answer.ends then [answer] else answer :: due rest

def Event.answer? : Event → Option KeyRead
  | .read answer => some answer
  | _ => none

def Event.text? : Event → Option Bytes
  | .print text _ => some text
  | _ => none

-- The steps of a dump. Each chunk is printed before the next read.
inductive Dumps : List KeyRead → List Event → Bool → List KeyRead → Prop where
  | exhausted : Dumps [] [.read .endOfInput] true []
  | ended {answer : KeyRead} {rest : List KeyRead} (h : answer.bytes? = none) :
    Dumps (answer :: rest) [.read answer] true rest
  | refused {first : UInt8} {others : Bytes} {rest : List KeyRead} :
    Dumps (.chunk first others :: rest)
      [.read (.chunk first others), .print (render (first :: others)) false] false rest
  | last {first : UInt8} {others : Bytes} {rest : List KeyRead} (h : first = endOfTransmission) :
    Dumps (.chunk first others :: rest)
      [.read (.chunk first others), .print (render (first :: others)) true] true rest
  | next {first : UInt8} {others : Bytes} {rest unread : List KeyRead} {events : List Event} {wrote : Bool}
    (h : first ≠ endOfTransmission) (hrest : Dumps rest events wrote unread) :
    Dumps (.chunk first others :: rest)
      (.read (.chunk first others) :: .print (render (first :: others)) true :: events) wrote unread

theorem print_after_read {w w' : World} {answer : KeyRead} {text : Bytes} {worked : Bool}
    (h : (w.record (.read answer)).print text = (worked, w')) :
    w.sink.put text = (w'.sink, worked) ∧ w'.terminals = w.terminals ∧
      w'.events = w.events ++ [.read answer, .print text worked] := by
  obtain ⟨rfl, rfl⟩ := Prod.mk.inj h
  exact ⟨rfl, rfl, List.append_assoc _ _ _⟩

theorem dump_spec (w : World) (reads : List KeyRead) :
    ∃ during, (dump w reads).2.1.events = w.events ++ during ∧
      (dump w reads).2.1.terminals = w.terminals ∧
      Dumps reads during (dump w reads).1 (dump w reads).2.2 := by
  fun_induction dump w reads with
  | case1 w => exact ⟨_, rfl, rfl, .exhausted⟩
  | case2 w rest => exact ⟨_, rfl, rfl, .ended rfl⟩
  | case3 w e rest => exact ⟨_, rfl, rfl, .ended rfl⟩
  | case4 w first others rest w' hprint =>
    obtain ⟨-, hterminals, hevents⟩ := print_after_read hprint
    exact ⟨_, hevents, hterminals, .refused⟩
  | case5 w others rest w' hprint =>
    obtain ⟨-, hterminals, hevents⟩ := print_after_read hprint
    exact ⟨_, hevents, hterminals, .last rfl⟩
  | case6 w first others rest w' hprint hfirst ih =>
    obtain ⟨-, hterminals, hevents⟩ := print_after_read hprint
    obtain ⟨during, hduring, hkept, hdumps⟩ := ih
    refine ⟨.read (.chunk first others) :: .print (render (first :: others)) true :: during, ?_,
      hkept.trans hterminals, .next hfirst hdumps⟩
    rw [hduring, hevents, List.append_assoc]
    rfl

-- An output that takes everything has taken the chunks that are to be shown.
theorem dump_of_accepting {w : World} (h : w.sink.Accepting) (reads : List KeyRead) :
    (dump w reads).1 = true ∧
      (dump w reads).2.1.sink.taken = w.sink.taken ++ (shownChunks reads).flatMap render := by
  fun_induction dump w reads with
  | case1 w => exact ⟨rfl, by simp [World.record, shownChunks, chunksBefore]⟩
  | case2 w rest => exact ⟨rfl, by simp [World.record, shownChunks, chunksBefore]⟩
  | case3 w e rest => exact ⟨rfl, by simp [World.record, shownChunks, chunksBefore]⟩
  | case4 w first others rest w' hprint =>
    obtain ⟨hput, -⟩ := print_after_read hprint
    have hworked : (w.sink.put (render (first :: others))).2 = true := (h.put _).1
    simp [hput] at hworked
  | case5 w others rest w' hprint =>
    obtain ⟨hput, -⟩ := print_after_read hprint
    obtain ⟨-, htaken, -⟩ := h.put (render (endOfTransmission :: others))
    rw [hput] at htaken
    refine ⟨rfl, ?_⟩
    rw [htaken, shownChunks_cons, if_pos rfl, List.flatMap_singleton]
  | case6 w first others rest w' hprint hfirst ih =>
    obtain ⟨hput, -⟩ := print_after_read hprint
    obtain ⟨-, htaken, haccepting⟩ := h.put (render (first :: others))
    rw [hput] at htaken haccepting
    obtain ⟨hworked, hrest⟩ := ih haccepting
    refine ⟨hworked, ?_⟩
    rw [hrest, htaken, shownChunks_cons, if_neg hfirst, List.flatMap_cons, List.append_assoc]

theorem answers_cons (first : UInt8) (others text : Bytes) (worked : Bool) (events : List Event) :
    List.filterMap Event.answer? (.read (.chunk first others) :: .print text worked :: events) =
      .chunk first others :: events.filterMap Event.answer? := rfl

theorem texts_cons (answer : KeyRead) (text : Bytes) (worked : Bool) (events : List Event) :
    List.filterMap Event.text? (.read answer :: .print text worked :: events) =
      text :: events.filterMap Event.text? := rfl

-- The reads are made in order and none is made after the first that ends the dump. Only a write that does
-- not work can end it before.

theorem Dumps.answers (h : Dumps reads during wrote unread) :
    during.filterMap Event.answer? <+: due reads ∧
      (wrote = true → during.filterMap Event.answer? = due reads) ∧
      unread = reads.drop (during.filterMap Event.answer?).length := by
  induction h with
  | exhausted => exact ⟨List.prefix_rfl, fun _ => rfl, rfl⟩
  | @ended answer rest h =>
    have hends : answer.ends = true := by
      cases answer with
      | chunk first others => simp [KeyRead.bytes?] at h
      | _ => rfl
    have hdue : due (answer :: rest) = [answer] := by simp [due, hends]
    rw [hdue]
    exact ⟨List.prefix_rfl, fun _ => rfl, rfl⟩
  | @refused first others rest =>
    have hdue : ∃ later, due (.chunk first others :: rest) = .chunk first others :: later := by
      rw [due]
      split
      · exact ⟨[], rfl⟩
      · exact ⟨due rest, rfl⟩
    obtain ⟨later, hdue⟩ := hdue
    rw [hdue]
    exact ⟨⟨later, rfl⟩, fun h => Bool.noConfusion h, rfl⟩
  | @last first others rest h =>
    have hdue : due (.chunk first others :: rest) = [.chunk first others] := by simp [due, KeyRead.ends, h]
    rw [hdue]
    exact ⟨List.prefix_rfl, fun _ => rfl, rfl⟩
  | @next first others rest unread events wrote h hrest ih =>
    obtain ⟨hinitial, hall, hunread⟩ := ih
    have hdue : due (.chunk first others :: rest) = .chunk first others :: due rest := by
      simp [due, KeyRead.ends, h]
    rw [hdue, answers_cons]
    exact ⟨List.cons_prefix_cons.mpr ⟨rfl, hinitial⟩, fun hw => congrArg _ (hall hw), hunread⟩

theorem Dumps.texts (h : Dumps reads during wrote unread) :
    during.filterMap Event.text? =
      ((during.filterMap Event.answer?).filterMap KeyRead.bytes?).map render := by
  induction h with
  | exhausted => rfl
  | ended h => simp [Event.text?, Event.answer?, h]
  | refused => rfl
  | last h => rfl
  | next h hrest ih =>
    rw [answers_cons, texts_cons, ih]
    rfl

theorem Dumps.wrote_iff (h : Dumps reads during wrote unread) :
    wrote = true ↔ ∀ text, .print text false ∉ during := by
  induction h with
  | next h hrest ih => simp [ih]
  | refused => simp
  | _ => simp

theorem Dumps.keeps (h : Dumps reads during wrote unread) (worked : Bool) :
    .capture worked ∉ during ∧ .restore worked ∉ during := by
  induction h with
  | next h hrest ih => simp [ih]
  | _ => simp

-- The whole run.

variable {streams : Streams} {allowNonTtys : Bool} {terminals ts : Terminals} {sink : Sink}
  {meanwhile : Terminals → Terminals} {modes : SavedModes} {err : ModeError}

theorem resultOf_eq_ok_iff (restored : Except RestoreError Unit) (wrote : Bool) :
    resultOf restored wrote = .ok () ↔ restored = .ok () ∧ wrote = true := by
  cases restored <;> cases wrote <;> simp [resultOf]

theorem run_of_refused_banner (h : (sink.put banner).2 = false) :
    run streams allowNonTtys terminals sink reads meanwhile =
      ⟨⟨(sink.put banner).1, terminals, [.print banner false]⟩, .error .banner, reads⟩ := by
  simp only [run, World.print, World.record, h]
  rfl

theorem run_of_failed_capture (h : (sink.put banner).2 = true)
    (hcapture : SavedModes.capture streams { allowNonTtys := allowNonTtys } terminals = (.error err, ts)) :
    run streams allowNonTtys terminals sink reads meanwhile =
      ⟨⟨(sink.put banner).1, ts, [.print banner true, .capture false]⟩, .error (.capture err), reads⟩ := by
  simp only [run, World.print, World.capture, World.record, h, hcapture]
  rfl

theorem run_of_captured (h : (sink.put banner).2 = true)
    (hcapture : SavedModes.capture streams { allowNonTtys := allowNonTtys } terminals = (.ok modes, ts)) :
    let start : World := ⟨(sink.put banner).1, meanwhile ts, [.print banner true, .capture true]⟩
    let d := dump start reads
    let r := modes.restore (meanwhile ts)
    run streams allowNonTtys terminals sink reads meanwhile =
      ⟨⟨d.2.1.sink, r.2, d.2.1.events ++ [.restore r.1.isOk]⟩, resultOf r.1 d.1, d.2.2⟩ := by
  intro start d r
  obtain ⟨during, -, hterminals, -⟩ := dump_spec start reads
  have hrun : run streams allowNonTtys terminals sink reads meanwhile =
      ⟨(d.2.1.restore modes).2, resultOf (d.2.1.restore modes).1 d.1, d.2.2⟩ := by
    simp only [run, World.print, World.capture, World.record, h, hcapture]
    rfl
  rw [hrun, World.restore, hterminals]
  rfl

theorem taken_of_captured (h : sink.Accepting)
    (hcapture : SavedModes.capture streams { allowNonTtys := allowNonTtys } terminals = (.ok modes, ts)) :
    let o := run streams allowNonTtys terminals sink reads meanwhile
    o.sink.taken = sink.taken ++ banner ++ (shownChunks reads).flatMap render ∧
      ∀ text, .print text false ∉ o.events := by
  intro o
  obtain ⟨hbanner, htaken, haccepting⟩ := h.put banner
  let start : World := ⟨(sink.put banner).1, meanwhile ts, [.print banner true, .capture true]⟩
  obtain ⟨during, hduring, -, hdumps⟩ := dump_spec start reads
  obtain ⟨hwrote, hshown⟩ := dump_of_accepting (show start.sink.Accepting from haccepting) reads
  have hnone : ∀ text, .print text false ∉ during := hdumps.wrote_iff.mp hwrote
  have hrun : o = _ := run_of_captured hbanner hcapture
  rw [hrun]
  constructor
  · rw [← htaken]
    exact hshown
  · intro text
    simp [hduring, start, hnone]

-- What lies between the capture and the restoring.
structure Shows (reads : List KeyRead) (during : List Event) (unread : List KeyRead) : Prop where
  -- No read is made behind the first that ends the dump, and none is left out if all writes work.
  ordered : during.filterMap Event.answer? <+: due reads
  complete : (∀ text, .print text false ∉ during) → during.filterMap Event.answer? = due reads
  left : unread = reads.drop (during.filterMap Event.answer?).length
  printed : during.filterMap Event.text? =
    ((during.filterMap Event.answer?).filterMap KeyRead.bytes?).map render
  others : ∀ worked, .capture worked ∉ during ∧ .restore worked ∉ during

theorem Dumps.shows (h : Dumps reads during wrote unread) : Shows reads during unread := by
  obtain ⟨hinitial, hall, hunread⟩ := h.answers
  exact ⟨hinitial, fun hwrote => hall (h.wrote_iff.mpr hwrote), hunread, h.texts, h.keeps⟩

-- With an output that takes everything the chunks are shown up to the first that begins with the end of the
-- transmission. With any output, a capture that fails leaves the terminals alone and is followed by no read,
-- and one that does not fail is followed by one restoring as the last step, which decides over the result
-- before the writes do.
theorem run_restores_after_dump (streams : Streams) (allowNonTtys : Bool) (terminals : Terminals)
    (sink : Sink) (reads : List KeyRead) (meanwhile : Terminals → Terminals) :
    let captured := SavedModes.capture streams { allowNonTtys := allowNonTtys } terminals
    let o := run streams allowNonTtys terminals sink reads meanwhile
    (sink.Accepting → ∀ modes ts, captured = (.ok modes, ts) →
      o.sink.taken = sink.taken ++ banner ++ (shownChunks reads).flatMap render ∧
        ∀ text, .print text false ∉ o.events) ∧
    ((sink.put banner).2 = false → o.events = [.print banner false] ∧ o.result = .error .banner ∧
      o.unread = reads ∧ o.terminals = terminals) ∧
    ((sink.put banner).2 = true → ∀ err ts, captured = (.error err, ts) →
      o.events = [.print banner true, .capture false] ∧ o.result = .error (.capture err) ∧
        o.unread = reads ∧ ∀ n, (o.terminals n).attributes = (terminals n).attributes ∧
          (o.terminals n).hungUp = (terminals n).hungUp) ∧
    ((sink.put banner).2 = true → ∀ modes ts, captured = (.ok modes, ts) →
      let restored := (modes.restore (meanwhile ts)).1
      ∃ during, o.events = [.print banner true, .capture true] ++ during ++ [.restore restored.isOk] ∧
        Shows reads during o.unread ∧ o.terminals = (modes.restore (meanwhile ts)).2 ∧
        SavedModes.Undoes terminals (meanwhile ts) modes ∧
        (o.result = .ok () ↔ restored = .ok () ∧ ∀ text, .print text false ∉ during) ∧
        (∀ err, restored = .error err → o.result = .error (.restore err)) ∧
        (restored = .ok () → ∀ text, .print text false ∈ during → o.result = .error .dump)) := by
  intro captured o
  refine ⟨fun haccepting modes ts => taken_of_captured haccepting, ?_, ?_, ?_⟩
  · intro hbanner
    have hrun : o = _ := run_of_refused_banner hbanner
    rw [hrun]
    exact ⟨rfl, rfl, rfl, rfl⟩
  · intro hbanner err ts hcapture
    have hup := SavedModes.hungUp_capture streams { allowNonTtys := allowNonTtys } terminals
    have hrun : o = _ := run_of_failed_capture hbanner hcapture
    rw [show SavedModes.capture streams _ terminals = _ from hcapture] at hup
    rw [hrun]
    exact ⟨rfl, rfl, rfl, fun n => ⟨SavedModes.attributes_of_failed_capture hcapture n, hup n⟩⟩
  · intro hbanner modes ts hcapture restored
    let start : World := ⟨(sink.put banner).1, meanwhile ts, [.print banner true, .capture true]⟩
    obtain ⟨during, hduring, -, hdumps⟩ := dump_spec start reads
    obtain ⟨ts₁, hsave⟩ := SavedModes.saveAll_of_capture hcapture
    have hrun : o = _ := run_of_captured hbanner hcapture
    have hresult : o.result = resultOf restored (dump start reads).1 := by rw [hrun]
    refine ⟨during, ?_, ?_, ?_, (SavedModes.savedFrom_of_saveAll hsave).undoes (meanwhile ts), ?_, ?_, ?_⟩
    · rw [hrun, ← show start.events = [.print banner true, .capture true] from rfl, ← hduring]
    · rw [hrun]
      exact hdumps.shows
    · rw [hrun]
    · rw [hresult, resultOf_eq_ok_iff, hdumps.wrote_iff]
    · intro err herr
      rw [hresult, herr, resultOf]
    · intro hok text htext
      have hwrote : (dump start reads).1 = false := by
        rw [← Bool.not_eq_true, hdumps.wrote_iff]
        exact fun hnone => hnone text htext
      rw [hresult, hok, hwrote]
      rfl

end KeyDump

end TermBridge
