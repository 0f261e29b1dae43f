import IterativeDns.Proofs.History

/-!
# What a dialogue may lead to

A dialogue has many outcomes: identifiers are random and the network answers as it likes.  This file
says what holds of all of them.

* `Dialogue.Yields` — a transcript and a value that a dialogue may end with.  `yields_hold` says
  that holding a dialogue with any network leads to such an outcome, so what is proved of all
  outcomes is proved of every network.
* `Dialogue.exists_done` — a dialogue comes to an end, however it goes on.
* `Lookup.Ensures` — what holds after a part of a lookup, of its value, of the memory and of the
  history that it leaves behind.  There is one rule for each step that parts of a lookup are made
  from, and `Ensures.bind` puts two parts in a row.
-/

namespace IterativeDns

namespace Dialogue

variable {α β σ : Type}

/-! ## Outcomes -/

/-- The dialogue may leave a transcript behind and end with a value. -/
inductive Yields : Dialogue α → Transcript → α → Prop where
  /-- A dialogue that is over yields its value. -/
  | done (value : α) : Yields (done value) [] value
  /-- Any identifier may be drawn. -/
  | drawId {next : UInt16 → Dialogue α} {transcript : Transcript} {value : α} (id : UInt16)
      (h : Yields (next id) transcript value) :
      Yields (drawId next) (.drew id :: transcript) value
  /-- Anything may come of a request. -/
  | exchange {request : Request} {next : Delivery → Dialogue α} {transcript : Transcript}
      {value : α} (delivery : Delivery) (h : Yields (next delivery) transcript value) :
      Yields (exchange request next) (.exchanged request delivery :: transcript) value
  /-- A note is part of the transcript. -/
  | note {step : Step} {next : Dialogue α} {transcript : Transcript} {value : α}
      (h : Yields next transcript value) :
      Yields (note step next) (.noted step :: transcript) value

/-- An outcome of two dialogues in a row is one of the first followed by one of the second. -/
theorem Yields.of_bind {first : Dialogue α} {rest : α → Dialogue β} {transcript : Transcript}
    {value : β} (h : (first.bind rest).Yields transcript value) :
    ∃ before middle after, transcript = before ++ after ∧ first.Yields before middle ∧
      (rest middle).Yields after value := by
  induction first generalizing transcript with
  | done middle => exact ⟨[], middle, transcript, rfl, .done middle, h⟩
  | drawId next ih =>
    cases h with
    | drawId id h =>
      obtain ⟨before, middle, after, rfl, hfirst, hrest⟩ := ih id h
      exact ⟨.drew id :: before, middle, after, rfl, .drawId id hfirst, hrest⟩
  | exchange request next ih =>
    cases h with
    | exchange delivery h =>
      obtain ⟨before, middle, after, rfl, hfirst, hrest⟩ := ih delivery h
      exact ⟨.exchanged request delivery :: before, middle, after, rfl, .exchange delivery hfirst,
        hrest⟩
  | note step next ih =>
    cases h with
    | note h =>
      obtain ⟨before, middle, after, rfl, hfirst, hrest⟩ := ih h
      exact ⟨.noted step :: before, middle, after, rfl, .note hfirst, hrest⟩

/-- **Every network leads to an outcome.** -/
theorem yields_hold (network : Network σ) (dialogue : Dialogue α) (state : σ) :
    dialogue.Yields (dialogue.hold network state).transcript
      (dialogue.hold network state).value := by
  induction dialogue generalizing state with
  | done value => exact .done value
  | drawId next ih => exact .drawId _ (ih _ _)
  | exchange request next ih => exact .exchange _ (ih _ _)
  | note step next ih => exact .note (ih _)

/-! ## Coming to an end -/

/-- The dialogue goes on by one identifier, one delivery or one note. -/
inductive Advances : Dialogue α → Dialogue α → Prop where
  /-- Any identifier may be drawn. -/
  | drawId (next : UInt16 → Dialogue α) (id : UInt16) : Advances (drawId next) (next id)
  /-- Anything may come of a request. -/
  | exchange (request : Request) (next : Delivery → Dialogue α) (delivery : Delivery) :
      Advances (exchange request next) (next delivery)
  /-- A note is taken. -/
  | note (step : Step) (next : Dialogue α) : Advances (note step next) next

/-- No dialogue goes on without end: each step leaves a part of it. -/
theorem acc_advances (dialogue : Dialogue α) :
    Acc (fun next first : Dialogue α => first.Advances next) dialogue := by
  induction dialogue with
  | done value => exact ⟨_, fun _ hstep => nomatch hstep⟩
  | drawId next ih =>
    refine ⟨_, fun _ hstep => ?_⟩
    cases hstep
    exact ih _
  | exchange request next ih =>
    refine ⟨_, fun _ hstep => ?_⟩
    cases hstep
    exact ih _
  | note step next ih =>
    refine ⟨_, fun _ hstep => ?_⟩
    cases hstep
    exact ih

/-- **A dialogue comes to an end,** however it goes on. -/
theorem exists_done {run : Nat → Dialogue α}
    (hrun : ∀ n, (∃ value, run n = done value) ∨ (run n).Advances (run (n + 1))) :
    ∃ n value, run n = done value := by
  generalize hfirst : run 0 = first
  have hacc := acc_advances first
  induction hacc generalizing run with
  | intro first _ ih =>
    rcases hrun 0 with hdone | hstep
    · exact ⟨0, hdone⟩
    · rw [hfirst] at hstep
      obtain ⟨n, hdone⟩ := ih _ hstep (fun n => hrun (n + 1)) rfl
      exact ⟨n + 1, hdone⟩

end Dialogue

namespace Lookup

variable {α β : Type}

/-! ## What holds after a part of a lookup -/

/-- Whatever happens in a part of a lookup that starts from a memory and a history, `post` holds of
its value, of the memory that it leaves behind and of the longer history. -/
def Ensures (program : Lookup α) (memory : Memory) (past : History)
    (post : α → Memory → History → Prop) : Prop :=
  ∀ ⦃transcript : Transcript⦄ ⦃value : α⦄ ⦃memory' : Memory⦄,
    (program memory).Yields transcript (value, memory') →
      post value memory' (past ++ transcript.history)

namespace Ensures

variable {program : Lookup α} {memory : Memory} {past : History}
  {post post' : α → Memory → History → Prop}

theorem mono (h : program.Ensures memory past post)
    (hpost : ∀ value memory' past', post value memory' past' → post' value memory' past') :
    program.Ensures memory past post' :=
  fun _ _ _ hyields => hpost _ _ _ (h hyields)

theorem and (h : program.Ensures memory past post) (h' : program.Ensures memory past post') :
    program.Ensures memory past fun value memory' past' =>
      post value memory' past' ∧ post' value memory' past' :=
  fun _ _ _ hyields => ⟨h hyields, h' hyields⟩

/-- A history is only ever added to. -/
theorem extends_past : program.Ensures memory past fun _ _ past' => past <+: past' :=
  fun transcript _ _ _ => ⟨transcript.history, rfl⟩

/-- What is ensured of a history that begins with the program is true of the part that the program
adds to any history. -/
theorem since (h : program.Ensures memory [] post) :
    program.Ensures memory past fun value memory' past' =>
      ∃ recent, past' = past ++ recent ∧ post value memory' recent :=
  fun transcript _ _ hyields => ⟨transcript.history, rfl, h hyields⟩

/-! ### One rule for each step -/

theorem pure {value : α} (h : post value memory past) :
    (Pure.pure value : Lookup α).Ensures memory past post := by
  intro transcript value' memory' hyields
  cases hyields
  simpa [Transcript.history] using h

theorem bind {rest : α → Lookup β} {post' : β → Memory → History → Prop}
    (h : program.Ensures memory past post)
    (hrest : ∀ value memory' past', post value memory' past' →
      (rest value).Ensures memory' past' post') :
    (program >>= rest).Ensures memory past post' := by
  intro transcript value memory' hyields
  obtain ⟨before, ⟨middle, memory₁⟩, after, rfl, hfirst, hafter⟩ := hyields.of_bind
  have := hrest middle memory₁ _ (h hfirst) hafter
  simpa [Transcript.history] using this

theorem get {post : Memory → Memory → History → Prop} (h : post memory memory past) :
    (MonadState.get : Lookup Memory).Ensures memory past post := by
  intro transcript value memory' hyields
  cases hyields
  simpa [Transcript.history] using h

theorem modify {change : Memory → Memory} {post : PUnit → Memory → History → Prop}
    (h : post ⟨⟩ (change memory) past) :
    (MonadState.modifyGet fun memory => (⟨⟩, change memory) : Lookup PUnit).Ensures
      memory past post := by
  intro transcript value memory' hyields
  cases hyields
  simpa [Transcript.history] using h

theorem note {step : Step} {post : Unit → Memory → History → Prop}
    (h : post () memory (past ++ [.entry (.noted step)])) :
    (Lookup.note step).Ensures memory past post := by
  intro transcript value memory' hyields
  cases hyields with
  | note hyields =>
    cases hyields
    simpa [Transcript.history] using h

theorem drawId {post : UInt16 → Memory → History → Prop}
    (h : ∀ id, post id memory (past ++ [.entry (.drew id)])) :
    Lookup.drawId.Ensures memory past post := by
  intro transcript value memory' hyields
  cases hyields with
  | drawId drawn hyields =>
    cases hyields
    simpa [Transcript.history] using h _

/-! ### Steps before the rest -/

theorem get_bind {rest : Memory → Lookup β} {post : β → Memory → History → Prop}
    (h : (rest memory).Ensures memory past post) :
    (MonadState.get >>= rest : Lookup β).Ensures memory past post :=
  have hget : (MonadState.get : Lookup Memory).Ensures memory past
      fun read memory' past' => read = memory ∧ memory' = memory ∧ past' = past :=
    get ⟨rfl, rfl, rfl⟩
  hget.bind fun _ _ _ ⟨hread, hmemory, hpast⟩ => by rwa [hread, hmemory, hpast]

theorem modify_bind {change : Memory → Memory} {rest : PUnit → Lookup β}
    {post : β → Memory → History → Prop} (h : (rest ⟨⟩).Ensures (change memory) past post) :
    ((MonadState.modifyGet fun memory => (⟨⟩, change memory)) >>= rest : Lookup β).Ensures
      memory past post :=
  have hmodify : (MonadState.modifyGet fun memory => (⟨⟩, change memory) : Lookup PUnit).Ensures
      memory past fun _ memory' past' => memory' = change memory ∧ past' = past :=
    modify ⟨rfl, rfl⟩
  hmodify.bind fun _ _ _ ⟨hmemory, hpast⟩ => by rwa [hmemory, hpast]

theorem note_bind {step : Step} {rest : Unit → Lookup β} {post : β → Memory → History → Prop}
    (h : (rest ()).Ensures memory (past ++ [.entry (.noted step)]) post) :
    (Lookup.note step >>= rest).Ensures memory past post :=
  have hnote : (Lookup.note step).Ensures memory past
      fun _ memory' past' => memory' = memory ∧ past' = past ++ [.entry (.noted step)] :=
    note ⟨rfl, rfl⟩
  hnote.bind fun _ _ _ ⟨hmemory, hpast⟩ => by rwa [hmemory, hpast]

theorem drawId_bind {rest : UInt16 → Lookup β} {post : β → Memory → History → Prop}
    (h : ∀ id, (rest id).Ensures memory (past ++ [.entry (.drew id)]) post) :
    (Lookup.drawId >>= rest).Ensures memory past post :=
  have hdraw : Lookup.drawId.Ensures memory past
      fun id memory' past' => memory' = memory ∧ past' = past ++ [.entry (.drew id)] :=
    drawId fun _ => ⟨rfl, rfl⟩
  hdraw.bind fun id _ _ ⟨hmemory, hpast⟩ => by
    rw [hmemory, hpast]
    exact h id

end Ensures

end Lookup

end IterativeDns
