import UpsMonitor.Proofs.Monitor.Operation

/-!
# Integrity

Nothing but a clean reply gets through to what is known and published. Main statement:

* `perform_reads_clean`: an operation reads some of the clean replies it gets onto the snapshot, in
  order, and without a clean reply it changes nothing that is known or published.
-/

namespace UpsMonitor.Monitor

variable {σ : Type}

/-- All that is known and published is as it was, but whether it still holds. -/
structure Unchanged (m after : Monitor σ) : Prop where
  snapshot : after.snapshot = m.snapshot
  dialect : after.dialect = m.dialect
  values : after.store.values = m.store.values
  status : after.store.status = m.store.status
  commands : after.store.commands = m.store.commands

theorem Heard.snapshot_of_unclean {m after : Monitor σ} {talks : List (Talk σ)}
    (heard : Heard m after talks) (unclean : ∀ talk ∈ talks, ¬talk.Clean) :
    after.snapshot = m.snapshot := by
  obtain ⟨readings, said, clean, read⟩ := heard.read
  cases readings with
  | nil => exact (Except.ok.inj read).symm
  | cons reading rest =>
    have member : reading.said ∈ talks.reverse.map Talk.said :=
      said.subset (List.mem_cons_self ..)
    obtain ⟨talk, inside, same⟩ := List.mem_map.mp member
    have fine := clean reading (List.mem_cons_self ..)
    have answered : talk.outcome = .ok reading.frame := congrArg Prod.snd same
    exact absurd ⟨reading.frame, answered, fine.accepted, fine.intact⟩
      (unclean talk (List.mem_reverse.mp inside))

theorem Account.unchanged {m after : Monitor σ} {talks : List (Talk σ)} {news : List Notice}
    (account : Account m after talks news) (unclean : ∀ talk ∈ talks, ¬talk.Clean) :
    Unchanged m after := by
  obtain ⟨rfl, same⟩ := account.gate unclean
  have store : after.store = m.store := account.store
  exact ⟨account.snapshot_of_unclean unclean, same, by rw [store], by rw [store], by rw [store]⟩

/-- A poll that failed counts, and publishes at most that the data no longer holds. -/
theorem missed_unchanged (m : Monitor σ) : Unchanged m m.missed where
  snapshot := m.missed_snapshot
  dialect := m.missed_dialect
  values := by rw [missed_store]
  status := by rw [missed_store]
  commands := by rw [missed_store]

theorem Unchanged.trans {a b c : Monitor σ} (h : Unchanged a b) (k : Unchanged b c) :
    Unchanged a c where
  snapshot := k.snapshot.trans h.snapshot
  dialect := k.dialect.trans h.dialect
  values := k.values.trans h.values
  status := k.status.trans h.status
  commands := k.commands.trans h.commands

variable [Device σ]

theorem poll_gated (m : Monitor σ) :
    ∃ talks, Heard m m.poll.2 talks ∧
      ((∀ talk ∈ talks, ¬talk.Clean) → Unchanged m m.poll.2) := by
  obtain ⟨talks, account, clean⟩ := m.refresh_learns
  obtain ⟨extended, fresh, polled⟩ | ⟨detail, -, polled⟩ | ⟨fault, -, -, polled⟩ := m.poll_cases
  · rw [polled]
    obtain ⟨talk, member, clean⟩ := clean extended fresh
    exact ⟨talks, ⟨account.recorded, account.read⟩,
      fun unclean => absurd clean (unclean talk member)⟩
  · rw [polled]
    exact ⟨talks, account.toHeard, account.unchanged⟩
  · rw [polled]
    refine ⟨talks, ⟨?_, ?_⟩, fun unclean => ?_⟩
    · rw [missed_talks, account.recorded]
    · rw [missed_snapshot]
      exact account.read
    · exact (account.unchanged unclean).trans m.refresh.2.missed_unchanged

/-- **Only clean replies get through.** What an operation does to the snapshot is to read some of
the replies it gets onto it, each the clean answer to its command, in the order in which they came.
If none of its replies is clean, or none comes at all, everything that is known and published stays
as it was, but whether it still holds. Commands and the shutdown change none of it in any case. -/
theorem perform_reads_clean (m : Monitor σ) (operation : Operation) :
    let after := operation.perform m
    ∃ talks, Heard m after talks ∧
      ((∀ talk ∈ talks, ¬talk.Clean) → Unchanged m after) ∧
      (operation.controls = true → Unchanged m after) := by
  intro after
  by_cases polls : operation = .poll
  · subst polls
    obtain ⟨talks, heard, gate⟩ := m.poll_gated
    exact ⟨talks, heard, gate, nofun⟩
  · obtain ⟨talks, news, account⟩ := perform_account polls m
    refine ⟨talks, account.toHeard, account.unchanged, fun controls => ?_⟩
    obtain ⟨said, link, same⟩ : ∃ said link, after = { m with link, talks := said ++ m.talks } :=
      (commands_only controls m).kept
    rw [same]
    exact ⟨rfl, rfl, rfl, rfl, rfl⟩

end UpsMonitor.Monitor
