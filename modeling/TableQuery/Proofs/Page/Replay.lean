/-
TableQuery/Proofs/Page/Replay.lean

The history replays what was seen.

Each visit that answers a question adds one exchange to the history, and what
it adds is what it shows.  Every later visit shows it again above its own
question field, with the same texts, until the history is cleared.  Files may
come and go in between, since an exchange holds texts and no table.

A visit that is ended above its question field, by the fresh start after a
removal or by an error, shows no exchange at all.  So the last part is about
visits that reach the field, and `replay_missing` is one that does not.

Main result: `history_replays`, by induction over the visits from what one
visit does (`conducts_visit`).
-/
import TableQuery.Proofs.Page.Conversation

namespace TableQuery

namespace Page

/-! ### Outcomes -/

namespace Outcome

/-- The drawing came as far as the question field. -/
def ReachesField (o : Outcome) : Prop := ∃ disabled, questionField disabled ∈ o.drawn

/-- Something was asked: the question field, as it was drawn, returned a word. -/
def Answers (o : Outcome) (v : Visit) : Prop :=
  ∃ disabled, questionField disabled ∈ o.drawn ∧ query v disabled ≠ ""

/-- The button that clears the history is there and was pressed. -/
def Clears (o : Outcome) (v : Visit) : Prop := v.clears = true ∧ clearButton ∈ o.drawn

/-- These exchanges are drawn above the question field, and no other message
is. -/
def Replays (o : Outcome) (exchanges : List Exchange) : Prop :=
  ∃ above disabled below, Quiet above ∧
    o.drawn = above ++ replay exchanges ++ questionField disabled :: below

/-- These exchanges are drawn above the question field and this one below it,
and no other message is. -/
def Shows (o : Outcome) (exchanges : List Exchange) (e : Exchange) : Prop :=
  ∃ above disabled more below, Quiet above ∧ AtMostTable more ∧ Silent below ∧
    o.drawn = above ++ replay exchanges ++
      questionField disabled :: (exchangeElements more e ++ below)

/-- These exchanges are the history afterwards, unless it was cleared. -/
def Leaves (o : Outcome) (v : Visit) (exchanges : List Exchange) : Prop :=
  (o.Clears v → o.session.history.exchanges = []) ∧
    (¬ o.Clears v → o.session.history.exchanges = exchanges)

end Outcome

/-- What a visit does to the conversation.  An answer adds one exchange and shows
it, anything else adds none, and the exchanges from before are shown above the
question field.  A drawing that does not come so far was stopped, and shows
nothing of the conversation. -/
structure Conducts (v : Visit) (before : History) (o : Outcome) : Prop where
  answered : o.Answers v → ∃ e, Records v o.session e ∧ o.Shows before.exchanges e ∧
    o.Leaves v (before.exchanges ++ [e])
  passed : ¬ o.Answers v → o.Leaves v before.exchanges
  replays : o.ReachesField → o.Replays before.exchanges
  stopped : ¬ o.ReachesField → o.stop ≠ none ∧ Quiet o.drawn

/-! ### What is among the elements -/

theorem questionField_not_mem_replay (disabled : Bool) (exchanges : List Exchange) :
    questionField disabled ∉ replay exchanges := by
  simp [replay, exchangeElements, messageElements, questionField]

theorem clearButton_not_mem_replay (exchanges : List Exchange) :
    clearButton ∉ replay exchanges := by
  simp [replay, exchangeElements, messageElements, clearButton]

section Membership

variable {above below more : List PageElement} {exchanges : List Exchange} {disabled : Bool}

/-- Below messages without a question field, the first one is the only one. -/
theorem eq_of_questionField_mem (habove : Quiet above) (hbelow : Silent below) {d : Bool}
    (h : questionField d ∈ above ++ replay exchanges ++ questionField disabled :: below) :
    d = disabled := by
  rcases List.mem_append.1 h with h | h
  · rcases List.mem_append.1 h with h | h
    · exact nomatch habove _ h
    · exact absurd h (questionField_not_mem_replay d exchanges)
  · rcases List.mem_cons.1 h with heq | h
    · exact (PageElement.chatInput.inj heq).2
    · exact nomatch hbelow _ h

theorem clearButton_mem_iff (habove : Quiet above) :
    clearButton ∈ above ++ replay exchanges ++ questionField disabled :: below ↔
      clearButton ∈ below := by
  have hquiet : clearButton ∉ above := fun h => nomatch habove _ h
  have hfield : clearButton ≠ questionField disabled := by
    intro h
    cases h
  simp only [List.mem_append, List.mem_cons, hquiet, clearButton_not_mem_replay, hfield, false_or]

theorem clearButton_mem_exchange_iff (hmore : AtMostTable more) (e : Exchange) :
    clearButton ∈ exchangeElements more e ++ below ↔ clearButton ∈ below := by
  rcases hmore with rfl | ⟨frame, rfl⟩
  · simp [exchangeElements, messageElements, clearButton]
  · simp [exchangeElements, messageElements, clearButton]

end Membership

/-! ### One visit -/

variable {v : Visit} {h : History} {o : Outcome} {above : List PageElement}

/-- The controls of a drawing leave the exchanges, unless the history was
cleared. -/
theorem Controlled.leaves {below : List PageElement}
    (hcontrolled : Controlled v below h o.session.history)
    (hbutton : clearButton ∈ o.drawn ↔ clearButton ∈ below) : o.Leaves v h.exchanges := by
  generalize hafter : o.session.history = after at hcontrolled
  cases hcontrolled with
  | cleared hclears hmem =>
    rw [Outcome.Leaves, hafter]
    exact ⟨fun _ => rfl, fun hnot => absurd ⟨hclears, hbutton.2 hmem⟩ hnot⟩
  | kept hnot =>
    rw [Outcome.Leaves, hafter]
    exact ⟨fun hclears => absurd ⟨hclears.1, hbutton.1 hclears.2⟩ hnot, fun _ => rfl⟩

theorem Talked.conducts (habove : Quiet above) (htalked : Talked v h above o.session o.drawn) :
    Conducts v h o := by
  cases htalked with
  | @passed disabled below hnone hdrawn hbelow hcontrolled =>
    have hbutton : clearButton ∈ o.drawn ↔ clearButton ∈ below := by
      rw [hdrawn]
      exact clearButton_mem_iff habove
    refine ⟨?_, fun _ => hcontrolled.leaves hbutton, fun _ => ⟨above, disabled, below, habove, hdrawn⟩,
      fun hnot => ?_⟩
    · -- there is one field only, and it returned no word
      rintro ⟨d, hfield, hquestion⟩
      rw [hdrawn] at hfield
      obtain rfl := eq_of_questionField_mem habove hbelow hfield
      exact absurd hnone hquestion
    -- the field is drawn, disabled or not, so the page did not stop before it
    · refine absurd ⟨disabled, ?_⟩ hnot
      rw [hdrawn]
      exact List.mem_append_right _ List.mem_cons_self
  | @answered disabled e more below hquestion hrecords hmore hdrawn hbelow hcontrolled =>
    have hbutton : clearButton ∈ o.drawn ↔ clearButton ∈ below := by
      rw [hdrawn]
      exact (clearButton_mem_iff habove).trans (clearButton_mem_exchange_iff hmore e)
    have hfield : questionField disabled ∈ o.drawn := by
      rw [hdrawn]
      exact List.mem_append_right _ List.mem_cons_self
    exact {
      -- the three other cases are about pages without a question, or without a field
      answered := fun _ => ⟨e, hrecords,
        ⟨above, disabled, more, below, habove, hmore, hbelow, hdrawn⟩,
        hcontrolled.leaves hbutton⟩
      passed := fun hnot => absurd ⟨disabled, hfield, hquestion⟩ hnot
      replays := fun _ => ⟨above, disabled, _, habove, hdrawn⟩
      stopped := fun hnot => absurd ⟨disabled, hfield⟩ hnot }

/-- A drawing that stopped above the conversation. -/
theorem conducts_of_quiet (hstop : o.stop ≠ none) (hhistory : o.session.history = h)
    (hquiet : Quiet o.drawn) : Conducts v h o where
  answered hanswers := by
    obtain ⟨disabled, hfield, -⟩ := hanswers
    exact nomatch hquiet _ hfield
  passed _ := ⟨fun hclears => (nomatch hquiet _ hclears.2), fun _ => by rw [hhistory]⟩
  replays hreaches := by
    obtain ⟨disabled, hfield⟩ := hreaches
    exact nomatch hquiet _ hfield
  stopped _ := ⟨hstop, hquiet⟩

/-- **One visit** of a settled session. -/
theorem conducts_visit {session : Session} (hs : Settled session) (v : Visit) :
    Settled (visit session v).session ∧ Conducts v session.history (visit session v) := by
  have hend := (ends_drawPage_held (v := v) (h := session.history)).run { session }
    ⟨rfl, trivial, hs, quiet_nil⟩
  rw [visit_eq]
  rcases hrun : runOn (drawPage v) { session } with ⟨stop | _, c⟩
  · rw [hrun] at hend
    rcases hend with habove | ⟨hsettled, above, hquiet, htalked⟩
    · exact ⟨habove.settled, conducts_of_quiet (by simp) habove.history habove.quiet⟩
    · exact ⟨hsettled, htalked.conducts hquiet⟩
  · rw [hrun] at hend
    obtain ⟨hsettled, above, hquiet, htalked⟩ := hend
    exact ⟨hsettled, htalked.conducts hquiet⟩

/-! ### Sessions -/

/-- A new session after some visits. -/
def sessionAfter (vs : List Visit) : Session :=
  vs.foldl (fun s v => (visit s v).session) {}

/-- The outcome of a visit that follows others. -/
def outcomeAfter (vs : List Visit) (v : Visit) : Outcome := visit (sessionAfter vs) v

theorem sessionAfter_concat (vs : List Visit) (v : Visit) :
    sessionAfter (vs ++ [v]) = (outcomeAfter vs v).session := by
  rw [sessionAfter, List.foldl_append]
  rfl

/-- None of the visits that follow others clears the history. -/
def KeepsHistory (earlier later : List Visit) : Prop :=
  ∀ first v rest, later = first ++ v :: rest → ¬ (outcomeAfter (earlier ++ first) v).Clears v

theorem settled_sessionAfter (vs : List Visit) : Settled (sessionAfter vs) := by
  induction vs using List.reverseRecOn with
  | nil => exact Shelf.consistent_empty
  | append_singleton vs v ih =>
    rw [sessionAfter_concat]
    exact (conducts_visit ih v).1

theorem conducts_outcomeAfter (vs : List Visit) (v : Visit) :
    Conducts v (sessionAfter vs).history (outcomeAfter vs v) :=
  (conducts_visit (settled_sessionAfter vs) v).2

theorem Conducts.exists_append (hconducts : Conducts v h o) (hkeeps : ¬ o.Clears v) :
    ∃ more, o.session.history.exchanges = h.exchanges ++ more := by
  by_cases hanswers : o.Answers v
  · obtain ⟨e, -, -, hleaves⟩ := hconducts.answered hanswers
    exact ⟨[e], hleaves.2 hkeeps⟩
  · refine ⟨[], ?_⟩
    rw [List.append_nil]
    exact (hconducts.passed hanswers).2 hkeeps

/-- **A history that is not cleared only grows at its end.** -/
theorem exists_exchanges_sessionAfter {earlier later : List Visit}
    (hkeeps : KeepsHistory earlier later) :
    ∃ more, (sessionAfter (earlier ++ later)).history.exchanges
      = (sessionAfter earlier).history.exchanges ++ more := by
  induction later generalizing earlier with
  | nil => exact ⟨[], by rw [List.append_nil, List.append_nil]⟩
  | cons v rest ih =>
    obtain ⟨first, hfirst⟩ :=
      (conducts_outcomeAfter earlier v).exists_append (by simpa using hkeeps [] v rest rfl)
    -- the later visits keep the history also when the first of them counts as earlier
    have hrest : KeepsHistory (earlier ++ [v]) rest := by
      rintro before u behind rfl
      rw [List.append_assoc]
      exact hkeeps (v :: before) u behind rfl
    obtain ⟨more, hmore⟩ := ih hrest
    rw [sessionAfter_concat, hfirst, List.append_assoc, List.append_assoc] at hmore
    exact ⟨first ++ more, hmore⟩

/-- **The history replays what was seen.**  Each visit of a session does to the
conversation what `Conducts` says.  Until the history is cleared, the exchanges
after a visit stay where they are, and every later visit that comes to its
question field shows them above it, in order, with their texts. -/
theorem history_replays (earlier : List Visit) (v : Visit) :
    Conducts v (sessionAfter earlier).history (outcomeAfter earlier v) ∧
      ∀ later, KeepsHistory (earlier ++ [v]) later →
        ∃ more, (sessionAfter (earlier ++ [v] ++ later)).history.exchanges
            = (outcomeAfter earlier v).session.history.exchanges ++ more ∧
          ∀ w, (outcomeAfter (earlier ++ [v] ++ later) w).ReachesField →
            (outcomeAfter (earlier ++ [v] ++ later) w).Replays
              ((outcomeAfter earlier v).session.history.exchanges ++ more) := by
  refine ⟨conducts_outcomeAfter earlier v, fun later hkeeps => ?_⟩
  -- later visits only add to the history, and each of them replays what it finds
  obtain ⟨more, hmore⟩ := exists_exchanges_sessionAfter hkeeps
  rw [sessionAfter_concat] at hmore
  refine ⟨more, hmore, fun w hreaches => ?_⟩
  rw [← hmore]
  exact (conducts_outcomeAfter _ w).replays hreaches

/-! ### Two sessions -/

/-- A visit that does not press the button leaves the history alone. -/
theorem Outcome.not_clears (hv : v.clears = false) (o : Outcome) : ¬ o.Clears v := by
  rintro ⟨hclears, -⟩
  rw [hv] at hclears
  cases hclears

theorem keepsHistory_of_clears {earlier later : List Visit}
    (h : ∀ v ∈ later, v.clears = false) : KeepsHistory earlier later := by
  rintro first v rest rfl
  exact Outcome.not_clears (h v (List.mem_append_right _ List.mem_cons_self)) _

/-- Nothing but an answer makes a history longer. -/
theorem Conducts.answers_of_ne (hconducts : Conducts v h o) (hv : v.clears = false)
    (hne : o.session.history.exchanges.length ≠ h.exchanges.length) : o.Answers v := by
  by_contra hanswers
  rw [(hconducts.passed hanswers).2 (o.not_clears hv)] at hne
  exact hne rfl

/-- A drawing that was not stopped comes to its question field. -/
theorem Conducts.reachesField (hconducts : Conducts v h o) (hstop : o.stop.isNone = true) :
    o.ReachesField := by
  by_contra hreaches
  rw [Option.isNone_iff_eq_none] at hstop
  exact (hconducts.stopped hreaches).1 hstop

/-- After a question about one file and a question about another, a file is
removed.  The visit after the removal shows both exchanges. -/
theorem history_replays_busySession :
    (outcomeAfter (busySession.take 1) busySession[1]).Answers busySession[1] ∧
      KeepsHistory (busySession.take 2) [busySession[2], busySession[3]] ∧
      (outcomeAfter (busySession.take 4) busySession[2]).ReachesField ∧
      ∃ e e', (outcomeAfter (busySession.take 1) busySession[1]).session.history.exchanges = [e, e'] ∧
        (outcomeAfter (busySession.take 4) busySession[2]).Replays [e, e'] := by
  obtain ⟨hconducts, hlater⟩ := history_replays (busySession.take 1) busySession[1]
  have hkeeps : KeepsHistory (busySession.take 2) [busySession[2], busySession[3]] :=
    keepsHistory_of_clears (by decide)
  obtain ⟨more, hmore, hreplays⟩ := hlater [busySession[2], busySession[3]] hkeeps
  rw [show busySession.take 1 ++ [busySession[1]] ++ [busySession[2], busySession[3]]
    = busySession.take 4 from rfl] at hmore hreplays
  have hreaches : (outcomeAfter (busySession.take 4) busySession[2]).ReachesField :=
    (conducts_outcomeAfter _ _).reachesField (by decide +kernel)
  have hbefore : (sessionAfter (busySession.take 1)).history.exchanges.length = 1 := by
    decide +kernel
  have htwo : (outcomeAfter (busySession.take 1) busySession[1]).session.history.exchanges.length
      = 2 := by decide +kernel
  have hanswers := hconducts.answers_of_ne rfl (by rw [hbefore, htwo]; decide)
  -- nothing was asked between the second question and the last visit
  have hnone : more = [] := by
    have hboth : (sessionAfter (busySession.take 4)).history.exchanges.length = 2 := by
      decide +kernel
    rw [hmore, List.length_append, htwo] at hboth
    exact List.length_eq_zero_iff.1 (Nat.left_eq_add.1 hboth.symm)
  obtain ⟨e, e', hexchanges⟩ := List.length_eq_two.1 htwo
  have hshown := hreplays busySession[2] hreaches
  rw [hnone, List.append_nil, hexchanges] at hshown
  exact ⟨hanswers, hkeeps, hreaches, e, e', hexchanges, hshown⟩

/-- A visit that asks about an upload. -/
def asking : Visit :=
  { uploads := [{ name := "rooms.xlsx", id := "1", size := 1000
                  content := .workbook [{ name := "Rooms", header := [.text "room"]
                                          rows := [[.text "B2"], [.text "C1"]] }] }]
    question := some "b2"
    time := busySession[0].time }

/-- A visit that removes the upload again. -/
def removing : Visit := { asking with question := none, removes := true }

/-- The visit that removes a file shows nothing of the history, which holds an
exchange and is not cleared. -/
theorem replay_missing :
    (outcomeAfter [] asking).Answers asking ∧
      (outcomeAfter [] asking).session.history.exchanges.length = 1 ∧
      ¬ (outcomeAfter [asking] removing).Clears removing ∧
      (outcomeAfter [asking] removing).session.history.exchanges.length = 1 ∧
        ¬ replay (outcomeAfter [] asking).session.history.exchanges
          <:+: (outcomeAfter [asking] removing).drawn := by
  have hlength : (outcomeAfter [] asking).session.history.exchanges.length = 1 := by
    decide +kernel
  have hquiet : (outcomeAfter [asking] removing).drawn.all (fun e => !e.isConversation) = true := by
    decide +kernel
  refine ⟨(conducts_outcomeAfter [] asking).answers_of_ne rfl ?_, hlength,
    Outcome.not_clears rfl _, by decide +kernel, fun hreplay => ?_⟩
  · rw [hlength]
    exact Nat.one_ne_zero
  · obtain ⟨e, hexchanges⟩ := List.length_eq_one_iff.1 hlength
    rw [hexchanges] at hreplay
    have hmessage := hreplay.subset (List.mem_cons_self (a := PageElement.chatMessage "user"))
    have hnone := List.all_eq_true.1 hquiet _ hmessage
    cases hnone

end Page

end TableQuery
