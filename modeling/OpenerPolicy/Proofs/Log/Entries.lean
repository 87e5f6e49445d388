/-
  File:      OpenerPolicy/Proofs/Log/Entries.lean
  Subject:   WHAT THE ENTRY OF A RECORD SAYS, AND WHOSE TIME AND LEVEL IT HAS.

  The entry of a record is an object on a line of its own: time and level first, then the members of
  the message, or its text under one name. Reading the line gives all of it back. A member of the
  message that is called time or level stands in the place of the record's own, so a message can make
  an entry tell another time or another level than those of its record.

  * `entry_eq_ok_iff` -- what an entry is, and when there is one;
  * `entryFields_eq` -- the members of an entry, in order;
  * **`line_reads_back`** -- what is read from the line of a record;
  * `exists_line_iff` -- a record has a line exactly if its message can be written by itself;
  * **`entry_own_iff`** -- the time and the level of an entry are the record's own exactly if the
    message does not say otherwise.
-/
import OpenerPolicy.Log.Record
import OpenerPolicy.Proofs.Json.Compact
import OpenerPolicy.Proofs.Json.OneLine
import OpenerPolicy.Proofs.Json.Values

namespace OpenerPolicy.Log

open Time

/-! ## 1. The steps to an entry -/

section Steps

variable {r : Record} {time : Timestamp} {level : String} {fields : List (Key × Value)} {entry : Json}

/-- **An entry is there if level, time and message have a text**, and its members can be written. -/
theorem entry_eq_ok_iff :
    r.entry = .ok entry ↔ ∃ level time fields, levelName r.level = .ok level ∧
      timestamp r.created = .ok time ∧ r.fields = .ok fields ∧
      (Value.members (entryFields time.text level fields)).toJson = .ok entry := by
  rw [Record.entry]
  constructor
  · intro h
    obtain ⟨level, hlevel, h⟩ := bind_eq_ok_iff.1 h
    obtain ⟨time, htime, h⟩ := bind_eq_ok_iff.1 h
    obtain ⟨fields, hfields, h⟩ := bind_eq_ok_iff.1 h
    exact ⟨level, time, fields, mapError_eq_ok_iff.1 hlevel, mapError_eq_ok_iff.1 htime,
      mapError_eq_ok_iff.1 hfields, mapError_eq_ok_iff.1 h⟩
  · rintro ⟨level, time, fields, hlevel, htime, hfields, hentry⟩
    rw [hlevel, htime, hfields]
    exact mapError_eq_ok_iff.2 hentry

/-- With level, time and members at hand, the entry is their JSON form. -/
theorem entry_iff_of_fields (hlevel : levelName r.level = .ok level)
    (htime : timestamp r.created = .ok time) (hfields : r.fields = .ok fields) :
    r.entry = .ok entry ↔
      (Value.members (entryFields time.text level fields)).toJson = .ok entry := by
  rw [entry_eq_ok_iff]
  constructor
  · rintro ⟨level', time', fields', hlevel', htime', hfields', hentry⟩
    obtain rfl := Except.ok.inj (hlevel.symm.trans hlevel')
    obtain rfl := Except.ok.inj (htime.symm.trans htime')
    obtain rfl := Except.ok.inj (hfields.symm.trans hfields')
    exact hentry
  · exact fun hentry => ⟨level, time, fields, hlevel, htime, hfields, hentry⟩

/-- A line is the document of an entry. -/
theorem line_eq_ok_iff {line : String} :
    r.line = .ok line ↔ ∃ entry, r.entry = .ok entry ∧ line = entry.compact :=
  map_eq_ok_iff

theorem fields_of_members (h : r.message = .members fields) : r.fields = .ok fields := by
  rw [Notice.fields, h]

end Steps

/-! ## 2. The members of an entry -/

section Members

variable {fields : List (Key × Value)} {time level : String}

/-- **The members of an entry**: time and level, of the message if it has members of that name, and
    then its other members in their order. -/
theorem entryFields_eq (hnames : (fields.map Prod.fst).Nodup) :
    entryFields time level fields =
      (.text (.whole "time"), ((Value.members fields).field? "time").getD (.str time)) ::
        (.text (.whole "level"), ((Value.members fields).field? "level").getD (.str level)) ::
          fields.filter fun e => e.1 ≠ .text (.whole "time") ∧ e.1 ≠ .text (.whole "level") := by
  have hown : [Key.text (.whole "time"), .text (.whole "level")].Nodup := by decide
  have hall := Keyed.foldl_put
    (l := [(Key.text (.whole "time"), Value.str time), (.text (.whole "level"), .str level)])
    hown hnames
  refine hall.trans ?_
  simp [Keyed.keys, Value.field?, Value.member?]

/-- The members of the entry of a JSON message. -/
def jsonFields (time level : String) (fields : List (Json.Text × Json)) : List (Json.Text × Json) :=
  (.whole "time", ((Json.members fields).field? "time").getD (.str time)) ::
    (.whole "level", ((Json.members fields).field? "level").getD (.str level)) ::
      fields.filter fun e => e.1 ≠ .whole "time" ∧ e.1 ≠ .whole "level"

theorem entryFields_ofJson {fields : List (Json.Text × Json)} (hnames : (fields.map Prod.fst).Nodup) :
    entryFields time level (Value.ofJsonMembers fields)
      = Value.ofJsonMembers (jsonFields time level fields) := by
  have hfield (name own : String) :
      ((Value.members (Value.ofJsonMembers fields)).field? name).getD (.str own)
        = Value.ofJson (((Json.members fields).field? name).getD (.str own)) := by
    rw [← Value.ofJson, Value.field?_ofJson]
    cases (Json.members fields).field? name <;> rfl
  have hothers : (Value.ofJsonMembers fields).filter
        (fun e => e.1 ≠ .text (.whole "time") ∧ e.1 ≠ .text (.whole "level"))
      = Value.ofJsonMembers (fields.filter fun e => e.1 ≠ .whole "time" ∧ e.1 ≠ .whole "level") := by
    rw [Value.ofJsonMembers_eq_map, Value.ofJsonMembers_eq_map, List.filter_map]
    refine congrArg _ (List.filter_congr fun e _ => ?_)
    simp
  rw [entryFields_eq (Value.nodup_ofJsonMembers hnames), hfield, hfield, hothers]
  rfl

/-- Members that are plain make a plain entry. -/
theorem plain_jsonFields {fields : List (Json.Text × Json)} (h : Json.Plain (.value (.members fields))) :
    Json.Plain (.value (.members (jsonFields time level fields))) := by
  cases h with
  | members hnames hfields =>
    have hplain := Json.plain_members_iff.1 hfields
    have hvalue (name own : String) :
        Json.Plain (.value (((Json.members fields).field? name).getD (.str own))) := by
      cases hj : (Json.members fields).field? name with
      | none => exact .text own
      | some j => exact (hplain _ ((Keyed.find?_eq_some_iff hnames _ j).1 hj)).2
    have hothers : ((fields.filter fun e => e.1 ≠ .whole "time" ∧ e.1 ≠ .whole "level").map
        Prod.fst).Nodup := hnames.sublist (List.filter_sublist.map Prod.fst)
    refine .members (List.nodup_cons.2 ⟨?_, List.nodup_cons.2 ⟨?_, hothers⟩⟩) ?_
    · simp
    · simp
    · refine .member "time" (hvalue _ _) (.member "level" (hvalue _ _) ?_)
      exact Json.plain_members_iff.2 fun e he => hplain e (List.mem_filter.1 he).1

/-- **A member of an entry can be written if the members of the message can**, and the other way round. -/
theorem writable_entryFields_iff (hnames : (fields.map Prod.fst).Nodup) :
    (∀ e ∈ entryFields time level fields, Member.Writable e) ↔ ∀ e ∈ fields, Member.Writable e := by
  have hfound (name : String) (v : Value) :
      (Value.members fields).field? name = some v ↔ (.text (.whole name), v) ∈ fields :=
    Keyed.find?_eq_some_iff hnames _ v
  -- what stands under one of the two names is the message's own, or text
  have hgiven (name own : String) (h : ∀ e ∈ fields, Member.Writable e) :
      Member.Writable
        (.text (.whole name), ((Value.members fields).field? name).getD (.str own)) := by
    cases hv : (Value.members fields).field? name with
    | none => exact Member.writable_str name own
    | some v => exact h _ ((hfound name v).1 hv)
  rw [entryFields_eq hnames, List.forall_mem_cons, List.forall_mem_cons]
  constructor
  · rintro ⟨htime, hlevel, hothers⟩ ⟨key, v⟩ he
    by_cases ht : key = .text (.whole "time")
    · subst ht
      rwa [(hfound "time" v).2 he, Option.getD_some] at htime
    · by_cases hl : key = .text (.whole "level")
      · subst hl
        rwa [(hfound "level" v).2 he, Option.getD_some] at hlevel
      · exact hothers _ (List.mem_filter.2 ⟨he, decide_eq_true ⟨ht, hl⟩⟩)
  · exact fun h => ⟨hgiven _ _ h, hgiven _ _ h, fun e he => h e (List.mem_filter.1 he).1⟩

end Members

/-! ## 3. Reading a line -/

section Lines

variable {r : Record} {time : Timestamp} {level : String} {fields : List (Json.Text × Json)}

/-- The line of a plain entry is on one line and gives it back. -/
theorem line_of_plain_entry {entry : Json} (hentry : r.entry = .ok entry)
    (hplain : Json.Plain (.value entry)) :
    ∃ line, r.line = .ok line ∧ (∀ c ∈ Text.points line, Json.IsPrintable c) ∧
      Json.parse (Text.points line) = .ok entry := by
  refine ⟨_, line_eq_ok_iff.2 ⟨entry, hentry, rfl⟩, fun c hc => ?_, Json.parse_compact hplain⟩
  obtain ⟨d, hd, rfl⟩ := List.mem_map.1 hc
  exact Json.printable_compact _ d hd

/-- The entry of a plain JSON message. -/
theorem entry_of_json (hlevel : levelName r.level = .ok level)
    (htime : timestamp r.created = .ok time) (hmessage : r.message = .ofJson (.members fields))
    (hplain : Json.Plain (.value (.members fields))) :
    r.entry = .ok (.members (jsonFields time.text level fields)) := by
  have hnames : (fields.map Prod.fst).Nodup := by
    cases hplain with
    | members hnames _ => exact hnames
  rw [entry_iff_of_fields hlevel htime (fields_of_members hmessage), entryFields_ofJson hnames,
    ← Value.ofJson]
  exact Value.toJson_ofJson (plain_jsonFields hplain)

/-- **What is read from the line of a record.** The line is printable ASCII. That of a message with
    members gives back time and level, of the message if it has members of that name, and then its
    other members in their order. That of any other message gives back its text under one name, if no
    surrogate stands alone in it. -/
theorem line_reads_back (r : Record) (time : Timestamp) (level : String)
    (htime : timestamp r.created = .ok time) (hlevel : levelName r.level = .ok level) :
    (∀ fields, r.message = .ofJson (.members fields) → Json.Plain (.value (.members fields)) →
      ∃ line, r.line = .ok line ∧ (∀ c ∈ Text.points line, Json.IsPrintable c) ∧
        Json.parse (Text.points line) = .ok (.members
          ((.whole "time", ((Json.members fields).field? "time").getD (.str time.text)) ::
            (.whole "level", ((Json.members fields).field? "level").getD (.str level)) ::
              fields.filter fun e => e.1 ≠ .whole "time" ∧ e.1 ≠ .whole "level"))) ∧
      ((∀ fields, r.message ≠ .members fields) → ∀ s, r.text = .ok (.whole s) →
        ∃ line, r.line = .ok line ∧ (∀ c ∈ Text.points line, Json.IsPrintable c) ∧
          Json.parse (Text.points line) = .ok (.object
            [("time", .str time.text), ("level", .str level), ("message", .str s)])) := by
  refine ⟨fun fields hmessage hplain => ?_, fun hother s htext => ?_⟩
  · exact line_of_plain_entry (entry_of_json hlevel htime hmessage hplain) (plain_jsonFields hplain)
  · have hfields : r.fields = .ok [(.text (.whole "message"), .str s)] := by
      unfold Notice.fields
      split
      · next fields hmessage => exact absurd hmessage (hother fields)
      · rw [htext]
        rfl
    have hplain : Json.Plain (.value (.object
        [("time", .str time.text), ("level", .str level), ("message", .str s)])) := by
      refine Json.plain_object (by decide : ["time", "level", "message"].Nodup) ?_
      simp only [List.forall_mem_cons]
      exact ⟨.text _, .text _, .text s, fun field hf => absurd hf List.not_mem_nil⟩
    exact line_of_plain_entry ((entry_iff_of_fields hlevel htime hfields).2 rfl) hplain

/-- A message with a quote, a line feed, a character beyond the first 65536 code points, values of
    every kind, and a level of its own. -/
def motleyFields : List (String × Json) :=
  [("event", .str "\"grüße\"\n😀"), ("level", .int (-12)),
    ("parts", .list [.null, .bool true, .list [], .object [("", .str "\\")]])]

/-- It is read back with the time of the record and its own level; a filled template is read back
    under one name. -/
theorem motley_message_read :
    (∃ line, Record.line ⟨⟨30, .ofJson (.object motleyFields), []⟩, .whole 86400⟩ = .ok line ∧
      (∀ c ∈ Text.points line, Json.IsPrintable c) ∧
      Json.parse (Text.points line) = .ok (.object
        [("time", .str "1970-01-02T00:00:00.000Z"), ("level", .int (-12)),
          ("event", .str "\"grüße\"\n😀"),
          ("parts", .list [.null, .bool true, .list [], .object [("", .str "\\")]])])) ∧
      ∃ line, Record.line ⟨⟨30, .str "%s left", [.str "ö"]⟩, .whole 86400⟩ = .ok line ∧
        (∀ c ∈ Text.points line, Json.IsPrintable c) ∧
        Json.parse (Text.points line) = .ok (.object
          [("time", .str "1970-01-02T00:00:00.000Z"), ("level", .str "WARNING"),
            ("message", .str "ö left")]) := by
  have hinner : Json.Plain (.value (.object [("", .str "\\")])) :=
    Json.plain_object (by decide) (List.forall_mem_singleton.2 (.text "\\"))
  have hplain : Json.Plain (.value (.object motleyFields)) := by
    refine Json.plain_object (by decide) (List.forall_mem_cons.2 ⟨.text _, ?_⟩)
    refine List.forall_mem_cons.2 ⟨.int _ (by decide), List.forall_mem_singleton.2 ?_⟩
    exact .list (.item .null (.item (.bool true) (.item (.list .noItems) (.item hinner .noItems))))
  refine ⟨?_, ?_⟩
  · exact (line_reads_back ⟨⟨30, .ofJson (.object motleyFields), []⟩, .whole 86400⟩ _ _ rfl rfl).1 _
      rfl hplain
  · refine (line_reads_back ⟨⟨30, .str "%s left", [.str "ö"]⟩, .whole 86400⟩ _ _ rfl rfl).2 ?_ _ rfl
    intro fields hfields
    cases hfields

end Lines

/-! ## 4. Whose time and level an entry has -/

section Owning

variable {r : Record} {time : Timestamp} {level : String} {fields : List (Key × Value)} {entry : Json}

/-- **A record has a line exactly if the members of its message can be written by themselves.** -/
theorem exists_line_iff (hlevel : levelName r.level = .ok level)
    (htime : timestamp r.created = .ok time) (hfields : r.fields = .ok fields)
    (hnames : (fields.map Prod.fst).Nodup) :
    (∃ line, r.line = .ok line) ↔ ∃ j, (Value.members fields).toJson = .ok j := by
  have hentry {entry : Json} : r.entry = .ok entry ↔
      (Value.members (entryFields time.text level fields)).toJson = .ok entry :=
    entry_iff_of_fields hlevel htime hfields
  have hmembers : (∀ e ∈ entryFields time.text level fields, Member.Writable e) ↔ _ :=
    writable_entryFields_iff hnames
  rw [Value.exists_toJson_members_iff, ← hmembers, ← Value.exists_toJson_members_iff]
  constructor
  · rintro ⟨line, hline⟩
    obtain ⟨entry, hr, -⟩ := line_eq_ok_iff.1 hline
    exact ⟨entry, hentry.1 hr⟩
  · rintro ⟨entry, hj⟩
    exact ⟨_, line_eq_ok_iff.2 ⟨entry, hentry.2 hj, rfl⟩⟩

/-- What stands in the place of text is that text exactly if nothing else was found. -/
theorem toJson_getD {found : Option Value} {own : String} {j : Json}
    (h : (found.getD (.str own)).toJson = .ok j) :
    j = .str own ↔ ∀ v, found = some v → v.toJson = .ok (.str own) := by
  cases found with
  | none =>
    refine iff_of_true (Except.ok.inj h).symm ?_
    intro v hv
    cases hv
  | some v =>
    constructor
    · rintro rfl v' hv
      rwa [← Option.some.inj hv]
    · intro hall
      exact Except.ok.inj (h.symm.trans (hall v rfl))

/-- The time and the level of an entry are what the message says of them, or else the record's own. -/
theorem field?_entry (hlevel : levelName r.level = .ok level)
    (htime : timestamp r.created = .ok time) (hmessage : r.message = .members fields)
    (hnames : (fields.map Prod.fst).Nodup) (hentry : r.entry = .ok entry) :
    ∃ jt jl, entry.field? "time" = some jt ∧ entry.field? "level" = some jl ∧
      ((r.message.field? "time").getD (.str time.text)).toJson = .ok jt ∧
      ((r.message.field? "level").getD (.str level)).toJson = .ok jl := by
  have hj := (entry_iff_of_fields hlevel htime (fields_of_members hmessage)).1 hentry
  rw [entryFields_eq hnames, ← hmessage] at hj
  obtain ⟨l, hl, rfl⟩ := Value.toJson_members_eq_ok_iff.1 hj
  obtain ⟨_, jt, l', hname, hjt, hl', rfl⟩ := Value.toJsonMembers_cons_eq_ok_iff.1 hl
  obtain rfl := Except.ok.inj hname
  obtain ⟨_, jl, l'', hname, hjl, -, rfl⟩ := Value.toJsonMembers_cons_eq_ok_iff.1 hl'
  obtain rfl := Except.ok.inj hname
  exact ⟨jt, jl, rfl, rfl, hjt, hjl⟩

/-- **The time of an entry is that of its record exactly if the message says nothing else**, and so
    is its level. Whatever a message says of time and level is what its entry says. There is an entry
    exactly if the message can be written by itself. -/
theorem entry_own_iff (r : Record) (time : Timestamp) (level : String)
    (htime : timestamp r.created = .ok time) (hlevel : levelName r.level = .ok level)
    (fields : List (Key × Value)) (hmessage : r.message = .members fields)
    (hnames : (fields.map Prod.fst).Nodup) :
    ((∃ line, r.line = .ok line) ↔ ∃ j, r.message.toJson = .ok j) ∧
    ∀ line, r.line = .ok line → ∃ entry, r.entry = .ok entry ∧ line = entry.compact ∧
      (∀ own, r.message = .ofJson own → Json.Plain (.value own) →
        Json.parse (Text.points line) = .ok entry) ∧
      (entry.field? "time" = some (.str time.text) ↔
        ∀ v, r.message.field? "time" = some v → v.toJson = .ok (.str time.text)) ∧
      (entry.field? "level" = some (.str level) ↔
        ∀ v, r.message.field? "level" = some v → v.toJson = .ok (.str level)) := by
  refine ⟨?_, fun line hline => ?_⟩
  · rw [hmessage]
    exact exists_line_iff hlevel htime (fields_of_members hmessage) hnames
  obtain ⟨entry, hentry, rfl⟩ := line_eq_ok_iff.1 hline
  obtain ⟨jt, jl, ht, hl, hjt, hjl⟩ := field?_entry hlevel htime hmessage hnames hentry
  refine ⟨entry, hentry, rfl, fun own hown hplain => ?_, ?_, ?_⟩
  · cases hplain with
    | members hnames' h =>
      have hsame := entry_of_json hlevel htime hown (.members hnames' h)
      obtain rfl := Except.ok.inj (hentry.symm.trans hsame)
      exact Json.parse_compact (plain_jsonFields (.members hnames' h))
    | _ => cases hmessage.symm.trans hown
  · rw [ht, Option.some.injEq, toJson_getD hjt]
  · rw [hl, Option.some.injEq, toJson_getD hjl]

/-- An entry of a message that says nothing of time and level has those of its record. -/
theorem silent_entry_own :
    ∃ entry, Record.entry ⟨⟨30, .object [("event", .str "e")], []⟩, .whole 0⟩ = .ok entry ∧
      entry.field? "time" = some (.str "1970-01-01T00:00:00.000Z") ∧
      entry.field? "level" = some (.str "WARNING") := by
  obtain ⟨-, hentry⟩ := entry_own_iff ⟨⟨30, .object [("event", .str "e")], []⟩, .whole 0⟩ _ _ rfl rfl
    _ rfl (by decide)
  obtain ⟨entry, hentry, -, -, htime, hlevel⟩ := hentry _ rfl
  refine ⟨entry, hentry, htime.2 fun j hj => ?_, hlevel.2 fun j hj => ?_⟩
  · cases hj
  · cases hj

/-- A warning of the first second of 1970 whose message speaks of another time and another level. -/
def forgedRecord : Record :=
  ⟨⟨30, .object [("time", .str "yesterday"), ("level", .str "DEBUG")], []⟩, .whole 0⟩

/-- **It is reported for yesterday, and as unimportant.** -/
theorem forged_record_misreported :
    (timestamp forgedRecord.created).map Timestamp.text = .ok "1970-01-01T00:00:00.000Z" ∧
      levelName forgedRecord.level = .ok "WARNING" ∧
      forgedRecord.line = .ok "\x7b\"time\": \"yesterday\", \"level\": \"DEBUG\"\x7d" ∧
      ∃ entry, forgedRecord.entry = .ok entry ∧
        entry.field? "time" ≠ some (.str "1970-01-01T00:00:00.000Z") ∧
        entry.field? "level" ≠ some (.str "WARNING") := by
  have htime : Json.str "yesterday" ≠ .str "1970-01-01T00:00:00.000Z" := by
    rw [Ne, Json.text.injEq]
    decide
  have hlevel : Json.str "DEBUG" ≠ .str "WARNING" := by
    rw [Ne, Json.text.injEq]
    decide
  exact ⟨rfl, rfl, rfl, _, rfl, fun h => htime (Option.some.inj h), fun h => hlevel (Option.some.inj h)⟩

end Owning

end OpenerPolicy.Log
