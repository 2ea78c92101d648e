import GuardedDispatch.Proofs.Stepwise
import GuardedDispatch.Web.Reply
import Mathlib.Data.List.Forall2

/-! # Header lines

How the header lines of a response get into a reply. They are sent one after the other behind the
lines that the reply has, each name in lower case (`Reply.Sends`). The only lines that may be left
out are locations: as soon as a reply has one, it takes no more (`Reply.copied`). So all other lines
are there, in their order (`Reply.filter_copied`), and of the locations those of the first header
that has some, or none where the reply had one before. -/

namespace GuardedDispatch

namespace Reply

/-- A name in the header encoding stays in it in lower case. -/
theorem isHeaderText_lowercase {name : String} (encoded : isHeaderText name = true) :
    isHeaderText (Text.lowercase name) = true := by
  have latin : ∀ c ∈ name.toList, c.toNat < 256 := by simpa [isHeaderText] using encoded
  have small := @Text.lt_of_mem_lowerFrom [] _ latin
  simpa [isHeaderText, Text.lowercase] using small

/-! ## Lines -/

/-- A reply that is **followed** by further lines. -/
def followed (reply : Reply) (lines : List (String × String)) : Reply :=
  { reply with headers := reply.headers ++ lines }

@[simp] theorem followed_nil (reply : Reply) : reply.followed [] = reply := by simp [followed]

theorem followed_followed (reply : Reply) (lines further : List (String × String)) :
    (reply.followed lines).followed further = reply.followed (lines ++ further) := by
  simp [followed]

/-- How a line of a response is **sent**: its name in lower case, and a text as it is, provided that
both are in the header encoding. -/
structure Sends (line : String × Value) (sent : String × String) : Prop where
  name : sent.1 = Text.lowercase line.1
  value : line.2 = .str sent.2
  encoded : isHeaderText sent.1 = true ∧ isHeaderText sent.2 = true

/-- A line in the header encoding is sent. -/
theorem exists_sends {name text : String} (encoded : isHeaderText name = true)
    (encoded' : isHeaderText text = true) : ∃ sent, Sends (name, .str text) sent :=
  ⟨(Text.lowercase name, text), rfl, rfl, isHeaderText_lowercase encoded, encoded'⟩

/-- **Adding a header line** sends it behind the others. -/
theorem addHeader_eq_ok_iff {reply after : Reply} {name : String} {value : Value} :
    reply.addHeader name value = .ok after ↔
      ∃ sent, Sends (name, value) sent ∧ after = reply.followed [sent] := by
  constructor
  · intro added
    cases value with
    | str text =>
      dsimp only [addHeader, addText] at added
      split at added
      · next encoded =>
        cases added
        exact ⟨(Text.lowercase name, text), ⟨rfl, rfl, by simpa using encoded⟩, rfl⟩
      · cases added
    | codes => cases added
    | _ =>
      dsimp only [addHeader] at added
      split at added <;> cases added
  · rintro ⟨⟨_, text⟩, ⟨rfl, isText, encoded⟩, rfl⟩
    obtain ⟨rfl⟩ : value = .str text := isText
    exact if_pos (by simpa using encoded)

/-- **Adding the lines of one header** sends one after the other. -/
theorem foldlM_addHeader_eq_ok_iff {name : String} :
    ∀ {values : List Value} {reply after : Reply},
      values.foldlM (fun reply value => reply.addHeader name value) reply = .ok after ↔
        ∃ sent, List.Forall₂ Sends (values.map (name, ·)) sent ∧ after = reply.followed sent
  | [], reply, after => by
    constructor
    · rintro ⟨⟩
      exact ⟨[], .nil, (followed_nil reply).symm⟩
    · rintro ⟨_, ⟨⟩, rfl⟩
      rw [followed_nil]
      rfl
  | value :: rest, reply, after => by
    rw [List.foldlM_cons]
    constructor
    · intro added
      obtain ⟨middle, first, others⟩ := exists_ok_of_bind added
      obtain ⟨line, sends, rfl⟩ := addHeader_eq_ok_iff.1 first
      obtain ⟨lines, all, rfl⟩ := foldlM_addHeader_eq_ok_iff.1 others
      exact ⟨line :: lines, .cons sends all, followed_followed reply [line] lines⟩
    · rintro ⟨_, all, rfl⟩
      cases all with
      | cons sends all =>
        rw [addHeader_eq_ok_iff.2 ⟨_, sends, rfl⟩]
        exact foldlM_addHeader_eq_ok_iff.2 ⟨_, all, (followed_followed reply [_] _).symm⟩

/-! ## Locations -/

/-- Whether a name is that of a **location**, in any case. -/
def isLocation (name : String) : Bool := Text.lowercase name == "location"

/-- All **lines** of headers in their order, one for each value. -/
def linesOf (headers : List (String × List Value)) : List (String × Value) :=
  headers.flatMap fun header => header.2.map (header.1, ·)

/-- A test of names keeps all lines of one header, or none. -/
theorem filter_lines (test : String → Bool) (name : String) (values : List Value) :
    (values.map (name, ·)).filter (fun line => test line.1) =
      if test name then values.map (name, ·) else [] := by
  cases kept : test name with
  | true => simp [List.filter_eq_self, kept]
  | false => simp [List.filter_eq_nil_iff, kept]

/-- The lines of one header that are **taken**: a location is left out if there is one. -/
def taken (located : Bool) (name : String) (values : List Value) : List (String × Value) :=
  if isLocation name && located then [] else values.map (name, ·)

/-- The lines of headers that are **copied**, one header after the other. A location is there as
soon as a line of it was taken. -/
def copied : Bool → List (String × List Value) → List (String × Value)
  | _, [] => []
  | located, (name, values) :: rest =>
    taken located name values ++ copied (located || isLocation name && !values.isEmpty) rest

/-- The lines taken of a header other than a location are all its lines. -/
theorem taken_of_other {name : String} (other : isLocation name = false) (located : Bool)
    (values : List Value) : taken located name values = values.map (name, ·) := by
  rw [taken, other, Bool.false_and, if_neg Bool.false_ne_true]

/-- What is copied is there, in the same order. -/
theorem copied_sublist : ∀ (located : Bool) (headers : List (String × List Value)),
    (copied located headers).Sublist (linesOf headers)
  | _, [] => .slnil
  | located, (name, values) :: rest => by
    rw [copied, linesOf, List.flatMap_cons]
    refine List.Sublist.append ?_ (copied_sublist _ rest)
    rw [taken]
    split
    · exact List.nil_sublist _
    · exact .refl _

/-- **All lines but locations are copied**, whether a location is there or not. -/
theorem filter_copied : ∀ (located : Bool) (headers : List (String × List Value)),
    (copied located headers).filter (fun line => !isLocation line.1) =
      (linesOf headers).filter fun line => !isLocation line.1
  | _, [] => rfl
  | located, (name, values) :: rest => by
    rw [copied, linesOf, List.flatMap_cons, List.filter_append, List.filter_append,
      filter_copied _ rest]
    congr 1
    cases isName : isLocation name with
    | false => rw [taken_of_other isName]
    | true =>
      -- no line of such a header counts
      have none : (values.map (name, ·)).filter (fun line => !isLocation line.1) = [] := by
        rw [filter_lines fun name => !isLocation name, isName]
        rfl
      rw [none, taken]
      split
      · rfl
      · exact none

/-- **Where there is a location, no other is copied.** -/
theorem copied_true (headers : List (String × List Value)) :
    copied true headers = (linesOf headers).filter fun line => !isLocation line.1 := by
  rw [← filter_copied true headers, eq_comm, List.filter_eq_self]
  induction headers with
  | nil => simp [copied]
  | cons header rest ih =>
    obtain ⟨name, values⟩ := header
    intro line mem
    rcases List.mem_append.1 mem with mem | mem
    · cases isName : isLocation name with
      | true => simp [taken, isName] at mem
      | false =>
        rw [taken_of_other isName] at mem
        obtain ⟨value, -, rfl⟩ := List.mem_map.1 mem
        simpa using isName
    · exact ih line mem

/-- Lines are sent as locations if they are. -/
theorem Sends.isLocation {line : String × Value} {sent : String × String}
    (sends : Sends line sent) : isLocation line.1 = (sent.1 == "location") := by
  rw [Reply.isLocation, sends.name]

/-- Some of the lines sent are locations iff some of the lines are. -/
theorem any_location_of_sends {lines : List (String × Value)} {sent : List (String × String)}
    (all : List.Forall₂ Sends lines sent) :
    sent.any (·.1 == "location") = lines.any fun line => isLocation line.1 := by
  induction all with
  | nil => rfl
  | cons sends _ ih => rw [List.any_cons, List.any_cons, ih, sends.isLocation]

/-- Locations are sent among themselves, and so are the other lines. -/
theorem filter_of_sends (test : Bool → Bool) {lines : List (String × Value)}
    {sent : List (String × String)} (all : List.Forall₂ Sends lines sent) :
    List.Forall₂ Sends (lines.filter fun line => test (isLocation line.1))
      (sent.filter fun line => test (line.1 == "location")) := by
  refine List.rel_filter (fun line sent sends => ?_) all
  show test (Reply.isLocation line.1) = true ↔ test (sent.1 == "location") = true
  rw [sends.isLocation]

/-! ## Adding the lines of a response -/

/-- **Adding a header** sends the lines that are taken. -/
theorem addLines_eq_ok_iff {reply after : Reply} {name : String} {values : List Value} :
    reply.addLines name values = .ok after ↔
      ∃ sent, List.Forall₂ Sends (taken (reply.hasHeader "location") name values) sent ∧
        after = reply.followed sent := by
  unfold addLines taken isLocation
  split
  · constructor
    · rintro ⟨⟩
      exact ⟨[], .nil, (followed_nil reply).symm⟩
    · rintro ⟨_, ⟨⟩, rfl⟩
      rw [followed_nil]
  · exact foldlM_addHeader_eq_ok_iff

/-- A reply has a location once a line of one was taken. -/
theorem hasHeader_followed_of_taken {reply : Reply} {name : String} {values : List Value}
    {sent : List (String × String)}
    (all : List.Forall₂ Sends (taken (reply.hasHeader "location") name values) sent) :
    (reply.followed sent).hasHeader "location" =
      (reply.hasHeader "location" || isLocation name && !values.isEmpty) := by
  have isThere : (reply.followed sent).hasHeader "location" =
      (reply.hasHeader "location" || sent.any (·.1 == "location")) := List.any_append
  rw [isThere, any_location_of_sends all]
  cases isName : isLocation name with
  | false => simp [taken_of_other isName, isName]
  | true => cases reply.hasHeader "location" <;> cases values <;> simp [taken, isName]

/-- **Adding the header lines of a response** sends those that are copied. -/
theorem addResponseLines_eq_ok_iff : ∀ {headers : List (String × List Value)}
    {reply after : Reply},
    reply.addResponseLines headers = .ok after ↔
      ∃ sent, List.Forall₂ Sends (copied (reply.hasHeader "location") headers) sent ∧
        after = reply.followed sent
  | [], reply, after => by
    constructor
    · rintro ⟨⟩
      exact ⟨[], .nil, (followed_nil reply).symm⟩
    · rintro ⟨_, ⟨⟩, rfl⟩
      rw [followed_nil]
      rfl
  | (name, values) :: rest, reply, after => by
    show (reply.addLines name values >>= fun reply => reply.addResponseLines rest) = _ ↔ _
    constructor
    · intro added
      obtain ⟨middle, first, others⟩ := exists_ok_of_bind added
      obtain ⟨sent, all, rfl⟩ := addLines_eq_ok_iff.1 first
      obtain ⟨further, all', rfl⟩ := addResponseLines_eq_ok_iff.1 others
      rw [hasHeader_followed_of_taken all] at all'
      exact ⟨sent ++ further, List.rel_append all all', followed_followed reply sent further⟩
    · rintro ⟨sent, all, rfl⟩
      -- what is sent falls into the lines of the first header and those of the others
      let first := taken (reply.hasHeader "location") name values
      have ofFirst := List.forall₂_take first.length all
      have ofOthers := List.forall₂_drop first.length all
      rw [copied, List.take_left] at ofFirst
      rw [copied, List.drop_left, ← hasHeader_followed_of_taken ofFirst] at ofOthers
      have added := addResponseLines_eq_ok_iff.2 ⟨_, ofOthers, rfl⟩
      rw [followed_followed, List.take_append_drop] at added
      rw [addLines_eq_ok_iff.2 ⟨_, ofFirst, rfl⟩]
      exact added

/-! ## The locations of a response -/

/-- The first header of a response that is a **location** and has a line. -/
def location? (headers : List (String × List Value)) : Option (String × List Value) :=
  headers.find? fun header => isLocation header.1 && !header.2.isEmpty

/-- No location is copied where there is one. -/
theorem filter_location_copied_true (headers : List (String × List Value)) :
    (copied true headers).filter (fun line => isLocation line.1) = [] := by
  rw [copied_true, List.filter_filter, List.filter_eq_nil_iff]
  simp

/-- **Of the locations of a response, those of the first header are copied.** -/
theorem filter_location_copied : ∀ headers : List (String × List Value),
    (copied false headers).filter (fun line => isLocation line.1) =
      linesOf (location? headers).toList
  | [] => rfl
  | (name, values) :: rest => by
    rw [copied, List.filter_append, location?, List.find?_cons]
    cases isName : isLocation name with
    | false =>
      rw [taken_of_other isName, filter_lines isLocation, isName]
      exact filter_location_copied rest
    | true =>
      have all : taken false name values = values.map (name, ·) := by
        rw [taken, Bool.and_false, if_neg Bool.false_ne_true]
      rw [all, filter_lines isLocation, isName]
      cases values with
      | nil => exact filter_location_copied rest
      | cons value values =>
        -- behind these lines there is a location
        exact congrArg _ (filter_location_copied_true rest)

/-- The texts that are sent are the values of the lines. -/
theorem map_str_of_sends {lines : List (String × Value)} {sent : List (String × String)}
    (all : List.Forall₂ Sends lines sent) :
    sent.map (fun line => Value.str line.2) = lines.map (·.2) := by
  induction all with
  | nil => rfl
  | cons sends _ ih => rw [List.map_cons, List.map_cons, ih, sends.value]

/-- A location that is written changes no other line. -/
theorem filter_linesOf_putField {name : String} (isName : isLocation name = true)
    (values : List Value) : ∀ headers : List (String × List Value),
    (linesOf (putField name values headers)).filter (fun line => !isLocation line.1) =
      (linesOf headers).filter fun line => !isLocation line.1
  | [] => by
    rw [putField, linesOf, List.flatMap_singleton, filter_lines fun name => !isLocation name,
      isName]
    rfl
  | (k, v) :: rest => by
    rw [putField]
    split
    · next same =>
      rw [beq_iff_eq.1 same]
      simp only [linesOf, List.flatMap_cons, List.filter_append,
        filter_lines fun name => !isLocation name, isName]
      rfl
    · simp only [linesOf, List.flatMap_cons, List.filter_append]
      exact congrArg _ (filter_linesOf_putField isName values rest)

end Reply

end GuardedDispatch
