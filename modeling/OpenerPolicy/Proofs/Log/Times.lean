/-
  File:      OpenerPolicy/Proofs/Log/Times.lean
  Subject:   THE TIME OF AN ENTRY IS READ BACK, AND ENTRIES ARE IN THE ORDER OF THEIR TIMES.

  A record whose message says nothing of time has an entry with the time of the record, cut to
  milliseconds. Cutting is towards the past on either side of 1970, so it keeps the order of times, and
  so do their texts: sorting entries by the text of their times sorts them by time.

  * `Record.TimedAt` -- the record was given at a number of microseconds, and its message leaves the
    time to it;
  * `entry_of_timedAt` -- such a record has an entry, with a time that tells its milliseconds;
  * **`entry_time_read_back`** -- what is read from the time of an entry, and the order of times.
-/
import OpenerPolicy.Proofs.Log.Entries
import OpenerPolicy.Proofs.Time.Reading

namespace OpenerPolicy.Log

open Time

/-! ## 1. Messages that say nothing of time -/

/-- **A record given at a number of microseconds since the start of 1970**, in the years 1 to 9999,
    that has a line, and a message that leaves the time to it. -/
structure Record.TimedAt (r : Record) (micros : Int) : Prop where
  rounded : r.created.micros = .ok micros
  first : startOfYear 1 ≤ micros
  last : micros < startOfYear 10000
  silent : r.message.field? "time" = none
  written : ∃ line, r.line = .ok line

/-- Where the message has no time among its members, the members of the entry have none of it. -/
theorem fields_silent {n : Notice} {fields : List (Key × Value)} (hfields : n.fields = .ok fields)
    (hsilent : n.message.field? "time" = none) : (Value.members fields).field? "time" = none := by
  unfold Notice.fields at hfields
  split at hfields
  · next own hmessage =>
    cases hfields
    rwa [hmessage] at hsilent
  · obtain ⟨text, -, rfl⟩ := map_eq_ok_iff.1 hfields
    rfl

/-- Members that have no time leave that of the record in its place, before all others. -/
theorem entryFields_of_silent {fields : List (Key × Value)}
    (hsilent : (Value.members fields).field? "time" = none) (time level : String) :
    ∃ rest, entryFields time level fields = (.text (.whole "time"), .str time) :: rest := by
  obtain ⟨v, rest, hfirst⟩ := Keyed.foldl_put_cons fields [(Key.text (.whole "level"), Value.str level)]
    (.text (.whole "time")) (.str time)
  have hkept := Keyed.find?_foldl_put (l := [(Key.text (.whole "time"), Value.str time),
    (.text (.whole "level"), .str level)]) hsilent
  rw [hfirst, Keyed.find?, if_pos rfl, Keyed.find?, if_pos rfl] at hkept
  obtain rfl := Option.some.inj hkept
  exact ⟨rest, hfirst⟩

/-- The time of an entry is that of the record then. -/
theorem time_of_silent {fields : List (Key × Value)}
    (hsilent : (Value.members fields).field? "time" = none) {time level : String} {entry : Json}
    (hentry : (Value.members (entryFields time level fields)).toJson = .ok entry) :
    entry.field? "time" = some (.str time) := by
  obtain ⟨rest, hfirst⟩ := entryFields_of_silent hsilent time level
  rw [hfirst] at hentry
  obtain ⟨l, hl, rfl⟩ := Value.toJson_members_eq_ok_iff.1 hentry
  obtain ⟨_, _, more, hname, hj, -, rfl⟩ := Value.toJsonMembers_cons_eq_ok_iff.1 hl
  obtain rfl := Except.ok.inj hname
  obtain rfl := Except.ok.inj hj
  rfl

/-! ## 2. Times of entries -/

variable {r : Record} {micros : Int}

/-- **A record whose message leaves the time to it has an entry** whose time tells the whole
    milliseconds of the record. -/
theorem entry_of_timedAt (h : r.TimedAt micros) :
    ∃ entry text, r.entry = .ok entry ∧ r.line = .ok entry.compact ∧
      entry.field? "time" = some (.str text) ∧ Tells text (micros / 1000) := by
  obtain ⟨line, hline⟩ := h.written
  obtain ⟨entry, hentry, rfl⟩ := line_eq_ok_iff.1 hline
  obtain ⟨level, time, fields, -, htime, hfields, hj⟩ := entry_eq_ok_iff.1 hentry
  obtain ⟨htold, hvalid⟩ := timestamp_of_micros h.rounded h.first h.last
  obtain rfl := Except.ok.inj (htold.symm.trans htime)
  exact ⟨entry, _, hentry, hline, time_of_silent (fields_silent hfields h.silent) hj,
    Timestamp.tells_ofMillis hvalid⟩

/-- **What is read from the time of an entry.** It has the 24 characters `YYYY-MM-DDTHH:MM:SS.mmmZ`, of a
    day of the calendar and a time of day, and reading them gives the milliseconds since the start of
    1970 that have passed at the time of the record. Of two records, the one given later does not have
    the smaller text. -/
theorem entry_time_read_back (r : Record) (micros : Int) (h : r.TimedAt micros) :
    ∃ entry text moment, r.entry = .ok entry ∧ r.line = .ok entry.compact ∧
      entry.field? "time" = some (.str text) ∧ text.length = 24 ∧
      Moment.read? text = some moment ∧ moment.Valid ∧ moment.instant = micros / 1000 ∧
      ∀ r' micros', Record.TimedAt r' micros' → micros ≤ micros' →
        ∃ entry' text', r'.entry = .ok entry' ∧ entry'.field? "time" = some (.str text') ∧
          text ≤ text' := by
  obtain ⟨entry, text, hentry, hline, hfield, htells⟩ := entry_of_timedAt h
  have ⟨moment, hread, hvalid, hinstant⟩ := htells
  refine ⟨entry, text, moment, hentry, hline, hfield, htells.length_eq, hread, hvalid, hinstant, ?_⟩
  intro r' micros' h' hle
  obtain ⟨entry', text', hentry', -, hfield', htells'⟩ := entry_of_timedAt h'
  exact ⟨entry', text', hentry', hfield', htells.le htells' (Int.ediv_le_ediv (by decide) hle)⟩

/-- A warning of a second and a half before 1970. -/
def earlyRecord : Record :=
  ⟨⟨30, .object [("event", .str "early")], []⟩, .binary (.finite true 6755399441055744 (-52))⟩

/-- A note of the leap day of the year 2000, from a template. -/
def leapDayRecord : Record :=
  ⟨⟨20, .str "leap day of %s", [.int 2000]⟩, .whole 951782400⟩

/-- The early one is read back with a positive part of a second, and is sorted before the other. -/
theorem early_entry_before_leap_day :
    ∃ entry text moment, earlyRecord.entry = .ok entry ∧ entry.field? "time" = some (.str text) ∧
      Moment.read? text = some moment ∧ moment.instant = -1500 ∧
      ∃ entry' text', leapDayRecord.entry = .ok entry' ∧
        entry'.field? "time" = some (.str text') ∧ text ≤ text' := by
  have hearly : earlyRecord.TimedAt (-1500000) := by
    have hlevel : levelName earlyRecord.level = .ok "WARNING" := rfl
    have htime := (timestamp_of_micros (c := earlyRecord.created) rfl (by decide) (by decide)).1
    have hfields : earlyRecord.fields = .ok [(.text (.whole "event"), .str "early")] := rfl
    exact ⟨rfl, by decide, by decide, rfl, (exists_line_iff hlevel htime hfields (by decide)).2 ⟨_, rfl⟩⟩
  have hleap : leapDayRecord.TimedAt 951782400000000 := by
    have hlevel : levelName leapDayRecord.level = .ok "INFO" := rfl
    have htime := (timestamp_of_micros (c := leapDayRecord.created) rfl (by decide) (by decide)).1
    have hfields : leapDayRecord.fields
        = .ok [(.text (.whole "message"), .str "leap day of 2000")] := rfl
    exact ⟨rfl, by decide, by decide, rfl, (exists_line_iff hlevel htime hfields (by decide)).2 ⟨_, rfl⟩⟩
  obtain ⟨entry, text, moment, hentry, -, hfield, -, hread, -, hinstant, hsorted⟩ :=
    entry_time_read_back earlyRecord (-1500000) hearly
  exact ⟨entry, text, moment, hentry, hfield, hread, hinstant, hsorted _ _ hleap (by decide)⟩

end OpenerPolicy.Log
