/-
`EventIndexer` of the indexer: pages of events in, a projection and a cursor
out.

This module has the part of the class that is about replay, which is all of
`processOwned` up to its first `await` and `pollOnceOwned` around it. A
[`Replica`] is the projection and the cursor; what other fields of the class do
and how its calls interleave is in the module on checkpoints. A history of
finalized transactions is a log of the paging library, with the cursor of an
event as its key and the ledger version as its block.
-/
import CedraReflect.Paging
import CedraReflect.ReduceGroup
import Mathlib.Data.Prod.Lex

set_option autoImplicit false
set_option linter.constructorNameAsVariable false

namespace CedraReflect.indexer

/-! ## Cursors -/

def compareCursor (left right : EventCursor) : ℤ :=
  if left.ledgerVersion ≠ right.ledgerVersion then
    if left.ledgerVersion < right.ledgerVersion then -1 else 1
  else left.eventIndex - right.eventIndex

/-- The place of a cursor in the order that `compareCursor` decides. -/
def EventCursor.place (cursor : EventCursor) : ℤ ×ₗ ℤ :=
  toLex (cursor.ledgerVersion, cursor.eventIndex)

theorem compareCursor_nonpos_iff (left right : EventCursor) :
    compareCursor left right ≤ 0 ↔ left.place ≤ right.place := by
  unfold compareCursor EventCursor.place
  rw [Prod.Lex.toLex_le_toLex]
  split_ifs <;> omega

theorem compareCursor_pos_iff (left right : EventCursor) :
    0 < compareCursor left right ↔ right.place < left.place := by
  rw [← not_le, compareCursor_nonpos_iff, not_le]

/-- `event` is past the indexer's cursor. -/
def EventBase.after (event : EventBase) (cursor : Option EventCursor) : Bool :=
  cursor.all fun cursor => 0 < compareCursor event.cursor cursor

def eventOrderAlert (event : EventBase) (previous : Option EventCursor) : CriticalAlert :=
  { id := [.lit "event:", .lit event.id, .lit ":EVENT_ORDER"]
    severity := .critical
    code := .EVENT_ORDER
    message := text "Event cursor is not strictly later than the indexer checkpoint."
    detectedAtUnixMilliseconds := event.timestampUnixMilliseconds
    cursor := previous
    expected := some ((previous.map EventCursor.shown).getD (text "first event"))
    observed := some event.cursor.shown }

/-! ## Processing a page -/

structure ProcessResult where
  processedEvents : ℕ
  skippedEvents : ℕ
  rejectedEvents : ℕ
  cursor : Option EventCursor
  alerts : List CriticalAlert

structure EventPage where
  chainId : ℤ
  events : List ProtocolEvent
  nextCursor : Option EventCursor

/-- `this.projection` and `this.cursor`. A projection is replaced and never
written to, so `reference` counts its replacements and stands for its identity
as an object. -/
structure Replica where
  projection : ProtocolProjection
  reference : ℕ
  cursor : Option EventCursor

namespace Replica

/-- A new `EventIndexer`. -/
def new : Replica := ⟨createEmptyProjection, 0, none⟩

/-- The loop over the groups of a page, `processed` events after its start. It
ends at the first group that is rejected, and with the exception if
`reduceEventGroup` throws: the groups before that one stay applied. -/
def applyGroups (replica : Replica) (processed : ℕ) :
    List (List ProtocolEvent) → Replica × Except Text (ℕ × ℕ × List CriticalAlert)
  | [] => (replica, .ok (processed, 0, []))
  -- A group is opened with an event in it.
  | [] :: groups => replica.applyGroups processed groups
  | (first :: others) :: groups =>
      let group := first :: others
      if first.after replica.cursor = false then
        (replica, .ok (processed, group.length, [eventOrderAlert first.toEventBase replica.cursor]))
      else
        match reduceEventGroup replica.projection group with
        | .error thrown => (replica, .error thrown)
        | .ok ⟨projection, []⟩ =>
            applyGroups
              ⟨projection, replica.reference + 1, group.getLast?.map fun last => last.cursor⟩
              (processed + group.length) groups
        | .ok ⟨_, alerts⟩ => (replica, .ok (processed, group.length, alerts))

/-- `sort((left, right) => compareCursor(eventCursor(left), eventCursor(right)))`. -/
def sortPage (events : List ProtocolEvent) : List ProtocolEvent :=
  events.mergeSort fun left right => compareCursor left.cursor right.cursor ≤ 0

/-- `processOwned` without the journal. -/
def process (replica : Replica) (events : List ProtocolEvent) :
    Replica × Except Text ProcessResult :=
  let sorted := sortPage events
  let fresh := sorted.filter fun event => event.after replica.cursor
  let groups := Paging.group (fun event : ProtocolEvent => event.ledgerVersion) fresh
  match replica.applyGroups 0 groups with
  | (replica, .error thrown) => (replica, .error thrown)
  | (replica, .ok (processedEvents, rejectedEvents, alerts)) =>
      (replica, .ok
        { processedEvents
          skippedEvents := sorted.length - fresh.length
          rejectedEvents
          cursor := replica.cursor
          alerts })

/-- `pollOnceOwned`: what the source answers and, where there are alerts, what
the journal does with them come from outside. -/
def pollOnce (replica : Replica) (limit : ℤ) (page : Except Text EventPage)
    (persisted : Except Text Unit) : Replica × Except Text ProcessResult :=
  if limit < 1 ∨ 10_000 < limit then
    (replica, .error (text "event page limit must be an integer between 1 and 10,000"))
  else
    match page with
    | .error failure => (replica, .error failure)
    | .ok page =>
        if page.chainId ≠ CEDRA_TESTNET_CHAIN_ID then
          (replica, .error
            [.lit "Event source must be Cedra Testnet chain ", .int CEDRA_TESTNET_CHAIN_ID,
              .lit ", observed ", .int page.chainId])
        else
          match replica.process page.events with
          | (replica, .error thrown) => (replica, .error thrown)
          | (replica, .ok result) =>
              if result.alerts = [] then (replica, .ok result)
              else
                match persisted with
                | .error failure => (replica, .error failure)
                | .ok () => (replica, .ok result)

end Replica

end CedraReflect.indexer
