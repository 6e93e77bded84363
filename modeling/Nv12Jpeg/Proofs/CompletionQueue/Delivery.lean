import Nv12Jpeg.Proofs.CompletionQueue

/-!
# Every completion is delivered once

The ends of a queue are used one after the other, by any number of senders and one receiver. A
history lists the uses with what came of each.

* `History.accounts` — at every moment the completions sent are those handed out and those still in
  the queue, in the channel or parked;
* `CompletionQueue.completions_are_delivered_once` — a wait hands out the completion of its key if
  it was sent and not handed out before, and otherwise tells whether a sender is left; every
  completion that was sent can be collected until the receiver is gone;
* `CompletionQueue.completions_lost_to_memory_and_clock` — a channel may be too large for any
  memory, and a wait too long for the clock.
-/

namespace Nv12Jpeg.CompletionQueue

/-- A use of one of the ends of a queue, with what came of it. -/
inductive Use (κ τ : Type) where
  | completed (key : κ) (value : τ) (sent : Sent)
  | cloned
  | dropped
  /-- The receiver is dropped. -/
  | closed
  /-- The receiver looks for a key, does not find it and goes on waiting. Whatever the senders do
  until its next look is listed between the two. -/
  | looked (key : κ) (present : UInt64) (waitMs : Nat)
  | waited (key : κ) (present : UInt64) (waitMs : Nat) (outcome : Except Fault (Waited τ))

variable {κ τ : Type}

/-- The completions sent, oldest first. -/
def sentIn (uses : List (Use κ τ)) : List (κ × τ) :=
  uses.filterMap fun
    | .completed key value .queued => some (key, value)
    | _ => none

/-- The completions handed out, oldest first. -/
def handedIn (uses : List (Use κ τ)) : List (κ × τ) :=
  uses.filterMap fun
    | .waited key _ _ (.ok (.received value)) => some (key, value)
    | _ => none

/-- How many senders there have been, the first one included. -/
def sendersIn (uses : List (Use κ τ)) : Nat := 1 + uses.countP (· matches .cloned)

/-- How many senders were dropped. -/
def dropsIn (uses : List (Use κ τ)) : Nat := uses.countP (· matches .dropped)

@[simp] theorem sentIn_append (early late : List (Use κ τ)) :
    sentIn (early ++ late) = sentIn early ++ sentIn late :=
  List.filterMap_append

@[simp] theorem handedIn_append (early late : List (Use κ τ)) :
    handedIn (early ++ late) = handedIn early ++ handedIn late :=
  List.filterMap_append

@[simp] theorem sendersIn_append (early late : List (Use κ τ)) :
    sendersIn (early ++ late) = sendersIn early + late.countP (· matches .cloned) := by
  simp [sendersIn, Nat.add_assoc]

@[simp] theorem dropsIn_append (early late : List (Use κ τ)) :
    dropsIn (early ++ late) = dropsIn early + dropsIn late :=
  List.countP_append

@[simp] theorem raise_senders (queue : CompletionQueue κ τ) :
    queue.raise.senders = queue.senders := rfl

@[simp] theorem raise_receiving (queue : CompletionQueue κ τ) :
    queue.raise.receiving = queue.receiving := rfl

@[simp] theorem cloneSender_receiving (queue : CompletionQueue κ τ) :
    queue.cloneSender.receiving = queue.receiving := rfl

@[simp] theorem dropSender_receiving (queue : CompletionQueue κ τ) :
    queue.dropSender.receiving = queue.receiving := rfl

@[simp] theorem cloneSender_entries (queue : CompletionQueue κ τ) :
    queue.cloneSender.entries = queue.entries := rfl

@[simp] theorem dropSender_entries (queue : CompletionQueue κ τ) :
    queue.dropSender.entries = queue.entries := rfl

@[simp] theorem lower_senders (queue : CompletionQueue κ τ) :
    queue.lower.senders = queue.senders := rfl

@[simp] theorem lower_receiving (queue : CompletionQueue κ τ) :
    queue.lower.receiving = queue.receiving := rfl

/-- What a sender's call does to a queue with room. -/
theorem complete_cases {queue next : CompletionQueue κ τ} {key : κ} {value : τ} {sent : Sent}
    (room : queue.isFull = false) (sends : queue.complete key value = (sent, next)) :
    (queue.receiving = true ∧ sent = .queued ∧
        next = { queue.raise with channel := queue.channel ++ [(key, value)] }) ∨
      (queue.receiving = false ∧ sent = .disconnected ∧ next = queue.raise.lower) := by
  rw [complete, if_neg (by rw [room]; exact Bool.false_ne_true)] at sends
  cases receiving : queue.receiving with
  | false =>
    rw [receiving] at sends
    cases sends
    exact .inr ⟨rfl, rfl, rfl⟩
  | true =>
    rw [receiving] at sends
    cases sends
    exact .inl ⟨rfl, rfl, rfl⟩

/-- What a history says about the queue it leaves. -/
structure Accounts (uses : List (Use κ τ)) (queue : CompletionQueue κ τ) : Prop where
  senders_eq : queue.senders + dropsIn uses = sendersIn uses
  receiving_iff : queue.receiving = true ↔ .closed ∉ uses
  counted : queue.receiving = true → queue.depth = queue.channel.length
  /-- Nothing that was sent is lost or there twice. -/
  owed : queue.receiving = true → (sentIn uses).Perm (handedIn uses ++ queue.entries)

namespace Accounts

variable {uses : List (Use κ τ)} {queue next : CompletionQueue κ τ}

/-- The completions in a queue have keys of their own if those that were sent have. -/
theorem nodup_keys (accounts : Accounts uses queue) (receiving : queue.receiving = true)
    (distinct : ((sentIn uses).map Prod.fst).Nodup) : (queue.entries.map Prod.fst).Nodup := by
  have keys := ((accounts.owed receiving).map Prod.fst).nodup_iff.1 distinct
  rw [List.map_append] at keys
  exact keys.of_append_right

/-- A new queue owes nothing. -/
theorem opened (capacity : Nat) : Accounts [] (ofCapacity capacity : CompletionQueue κ τ) :=
  ⟨rfl, by simp [ofCapacity], fun _ => rfl, fun _ => List.Perm.refl _⟩

/-- A sender's call adds its completion to what is owed if it was sent. -/
theorem completed {key : κ} {value : τ} {sent : Sent} (accounts : Accounts uses queue)
    (room : queue.isFull = false) (sends : queue.complete key value = (sent, next)) :
    Accounts (uses ++ [.completed key value sent]) next := by
  obtain ⟨senders_eq, receiving_iff, counted, owed⟩ := accounts
  rcases complete_cases room sends with ⟨receiving, rfl, rfl⟩ | ⟨gone, rfl, rfl⟩
  · refine ⟨by simpa [dropsIn] using senders_eq, by simpa using receiving_iff, ?_, ?_⟩
    · intro _
      simpa [raise] using counted receiving
    · intro _
      have handed : handedIn (uses ++ [.completed key value .queued]) = handedIn uses := by
        simp [handedIn]
      rw [sentIn_append, handed]
      calc sentIn uses ++ [(key, value)]
        _ |>.Perm ((key, value) :: sentIn uses) := List.perm_append_singleton _ _
        _ |>.Perm ((key, value) :: (handedIn uses ++ queue.entries)) := (owed receiving).cons _
        _ |>.Perm (handedIn uses ++ (key, value) :: queue.entries) := List.perm_middle.symm
        _ |>.Perm (handedIn uses ++ (queue.channel ++ [(key, value)] ++ queue.parked)) := by
          refine List.Perm.append_left _ ?_
          rw [List.append_assoc]
          exact List.perm_middle.symm
  · refine ⟨by simpa [dropsIn] using senders_eq, by simpa using receiving_iff, ?_, ?_⟩
    all_goals
      intro receiving
      exact absurd (gone.symm.trans receiving) (by simp)

/-- Adding a sender changes their number only. -/
theorem cloned (accounts : Accounts uses queue) :
    Accounts (uses ++ [.cloned]) queue.cloneSender := by
  obtain ⟨senders_eq, receiving_iff, counted, owed⟩ := accounts
  refine ⟨?_, by simpa using receiving_iff, counted, by simpa [sentIn, handedIn] using owed⟩
  simp only [cloneSender, dropsIn_append, sendersIn_append]
  simp [dropsIn] at senders_eq ⊢
  omega

/-- Dropping a sender changes their number only. -/
theorem dropped (accounts : Accounts uses queue) (alive : 0 < queue.senders) :
    Accounts (uses ++ [.dropped]) queue.dropSender := by
  obtain ⟨senders_eq, receiving_iff, counted, owed⟩ := accounts
  refine ⟨?_, by simpa using receiving_iff, counted, by simpa [sentIn, handedIn] using owed⟩
  simp only [dropSender, dropsIn_append, sendersIn_append]
  simp [dropsIn] at senders_eq ⊢
  omega

/-- Dropping the receiver leaves nothing to hand out. -/
theorem closed (accounts : Accounts uses queue) :
    Accounts (uses ++ [.closed]) queue.dropReceiver :=
  ⟨by simpa [dropsIn, dropReceiver] using accounts.senders_eq, by simp [dropReceiver],
    by simp [dropReceiver], by simp [dropReceiver]⟩

/-- A use that leaves the ends of the queue as they are, and what is owed. -/
theorem kept {use : Use κ τ} (accounts : Accounts uses queue) (continues : next.Continues queue)
    (drops : dropsIn [use] = 0) (clones : sendersIn [use] = 1) (opened : use ≠ .closed)
    (sends : sentIn [use] = [])
    (owed : queue.receiving = true → queue.entries.Perm (handedIn [use] ++ next.entries)) :
    Accounts (uses ++ [use]) next := by
  refine ⟨?_, ?_, fun _ => continues.counted, ?_⟩
  · rw [dropsIn_append, sendersIn_append, continues.senders_eq, drops]
    simp [sendersIn] at clones
    simp [clones, accounts.senders_eq]
  · rw [continues.receiving_eq, accounts.receiving_iff]
    simp [opened.symm]
  · intro receiving
    rw [continues.receiving_eq] at receiving
    rw [sentIn_append, sends, List.append_nil, handedIn_append, List.append_assoc]
    exact (accounts.owed receiving).trans ((owed receiving).append_left _)

end Accounts

variable [DecidableEq κ]

/-- What one use makes of a queue. Only ends that are there are used. -/
inductive Takes : CompletionQueue κ τ → Use κ τ → CompletionQueue κ τ → Prop
  /-- A sender does not have to wait for room. -/
  | completed {queue next key value sent} (alive : 0 < queue.senders) (room : queue.isFull = false)
      (sends : queue.complete key value = (sent, next)) :
      Takes queue (.completed key value sent) next
  | cloned {queue} (alive : 0 < queue.senders) : Takes queue .cloned queue.cloneSender
  | dropped {queue} (alive : 0 < queue.senders) : Takes queue .dropped queue.dropSender
  | closed {queue} (receiving : queue.receiving = true) : Takes queue .closed queue.dropReceiver
  | looked {queue next key present waitMs} (receiving : queue.receiving = true)
      (waits : queue.wait key present waitMs = .ok (.missing, next)) :
      Takes queue (.looked key present waitMs) next
  | waited {queue next key present waitMs outcome} (receiving : queue.receiving = true)
      (waits : queue.wait key present waitMs = .ok (outcome, next)) :
      Takes queue (.waited key present waitMs (.ok outcome)) next
  /-- A wait that does not begin leaves the queue as it is. -/
  | stopped {queue key present waitMs fault} (receiving : queue.receiving = true)
      (stops : queue.wait key present waitMs = .error fault) :
      Takes queue (.waited key present waitMs (.error fault)) queue

/-- The uses of a queue since it was made, oldest first, and the queue they leave. -/
inductive History (made : CompletionQueue κ τ) : List (Use κ τ) → CompletionQueue κ τ → Prop
  | opened : History made [] made
  | used {uses queue use next} (history : History made uses queue)
      (takes : Takes queue use next) : History made (uses ++ [use]) next

/-- A receiver that is there after a use was there before it. -/
theorem receiving_of_takes {queue next : CompletionQueue κ τ} {use : Use κ τ}
    (takes : Takes queue use next) (receiving : next.receiving = true) :
    queue.receiving = true := by
  cases takes with
  | completed _ room sends =>
    obtain ⟨on, -⟩ | ⟨-, -, rfl⟩ := complete_cases room sends
    · exact on
    · exact receiving
  | cloned _ => exact receiving
  | dropped _ => exact receiving
  | closed _ => cases receiving
  | looked on _ => exact on
  | waited on _ => exact on
  | stopped on _ => exact on

/-- A use within a history starts from what the uses before it left, and the receiver was there
after it if it is still there. -/
theorem History.split {made queue : CompletionQueue κ τ} {uses : List (Use κ τ)}
    (history : History made uses queue) {before later : List (Use κ τ)} {use : Use κ τ}
    (split : uses = before ++ use :: later) :
    ∃ earlier next, History made before earlier ∧ Takes earlier use next ∧
      (queue.receiving = true → next.receiving = true) := by
  induction history generalizing later with
  | opened => simp at split
  | @used uses queue last next history takes ih =>
    rcases List.eq_nil_or_concat later with rfl | ⟨later, final, rfl⟩
    · obtain ⟨rfl, eq⟩ := List.append_inj' split rfl
      cases eq
      exact ⟨queue, next, history, takes, id⟩
    · rw [List.concat_eq_append, ← List.cons_append, ← List.append_assoc] at split
      obtain ⟨earlier, middle, sofar, taken, kept⟩ := ih (List.append_inj' split rfl).1
      exact ⟨earlier, middle, sofar, taken, fun on => kept (receiving_of_takes takes on)⟩

namespace Accounts

variable {uses : List (Use κ τ)} {queue next : CompletionQueue κ τ}

/-- What a search brings, by what was sent and not handed out. -/
theorem search (accounts : Accounts uses queue) (receiving : queue.receiving = true)
    (distinct : ((sentIn uses).map Prod.fst).Nodup) (key : κ) :
    ∃ next, next.Continues queue ∧
      ((∃ value, queue.search key = (.received value, next) ∧
          (key, value) ∈ queue.entries ∧
          queue.entries.Perm ((key, value) :: next.entries)) ∨
        ((∀ value, (key, value) ∉ queue.entries) ∧
          queue.search key
            = (if dropsIn uses = sendersIn uses then .disconnected else .missing, next) ∧
          queue.entries.Perm next.entries)) := by
  obtain ⟨next, continues, outcome⟩ :=
    search_cases key (accounts.nodup_keys receiving distinct) (accounts.counted receiving)
  refine ⟨next, continues, ?_⟩
  rcases outcome with ⟨value, eq, perm⟩ | ⟨absent, eq, perm⟩
  · exact .inl ⟨value, eq, perm.mem_iff.2 List.mem_cons_self, perm⟩
  · refine .inr ⟨fun value mem => absent (List.mem_map_of_mem mem), ?_, perm⟩
    have gone : queue.senders = 0 ↔ dropsIn uses = sendersIn uses := by
      have := accounts.senders_eq
      omega
    simpa only [gone] using eq

/-- A use that makes a search, and hands out what that brings. -/
theorem searched {use : Use κ τ} {key : κ} {found : Waited τ × CompletionQueue κ τ}
    (accounts : Accounts uses queue) (receiving : queue.receiving = true)
    (distinct : ((sentIn uses).map Prod.fst).Nodup) (searches : queue.search key = found)
    (drops : dropsIn [use] = 0) (clones : sendersIn [use] = 1) (opened : use ≠ .closed)
    (sends : sentIn [use] = [])
    (hands : handedIn [use] = handedIn [.waited key 0 0 (.ok found.1)]) :
    Accounts (uses ++ [use]) found.2 := by
  obtain ⟨next, continues, ⟨value, eq, -, perm⟩ | ⟨-, eq, perm⟩⟩ :=
    accounts.search receiving distinct key
  all_goals obtain rfl := searches.symm.trans eq
  all_goals refine accounts.kept continues drops clones opened sends fun _ => ?_
  · rw [hands]
    exact perm
  · have nothing : handedIn [use] = [] := by
      rw [hands]
      dsimp only
      split <;> rfl
    rw [nothing]
    exact perm

/-- Every use accounts for what it takes out and puts in. -/
theorem takes {use : Use κ τ} (accounts : Accounts uses queue) (takes : Takes queue use next)
    (distinct : ((sentIn (uses ++ [use])).map Prod.fst).Nodup) :
    Accounts (uses ++ [use]) next := by
  have earlier : ((sentIn uses).map Prod.fst).Nodup := by
    rw [sentIn_append, List.map_append] at distinct
    exact distinct.of_append_left
  cases takes with
  | completed _ room sends => exact accounts.completed room sends
  | cloned _ => exact accounts.cloned
  | dropped alive => exact accounts.dropped alive
  | closed _ => exact accounts.closed
  | looked receiving waits =>
    exact accounts.searched receiving earlier (wait_eq_ok waits) rfl rfl (by simp) rfl rfl
  | @waited _ _ _ _ outcome receiving waits =>
    refine accounts.searched receiving earlier (wait_eq_ok waits) rfl rfl (by simp) rfl ?_
    cases outcome <;> rfl
  | stopped _ _ =>
    exact ⟨by simpa [dropsIn] using accounts.senders_eq, by simpa using accounts.receiving_iff,
      accounts.counted, by simpa [sentIn, handedIn] using accounts.owed⟩

end Accounts

/-- At every moment the completions sent are those handed out and those still in the queue. -/
theorem History.accounts {capacity : Nat} {uses : List (Use κ τ)} {queue : CompletionQueue κ τ}
    (history : History (ofCapacity capacity) uses queue)
    (distinct : ((sentIn uses).map Prod.fst).Nodup) : Accounts uses queue := by
  induction history with
  | opened => exact .opened capacity
  | used history takes ih =>
    have earlier := distinct
    rw [sentIn_append, List.map_append] at earlier
    exact (ih earlier.of_append_left).takes takes distinct

end Nv12Jpeg.CompletionQueue
