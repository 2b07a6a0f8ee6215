import Mathlib.Algebra.Group.Nat.Defs
import SlotClient.Proofs.Wire.Command
import SlotClient.Proofs.Wire.Truncation
import SlotClient.Wire.Stream

/-!
# Streams of commands

Frames that follow each other are drained from a stream one by one, and what follows the last one
is drained as if it stood alone. A command is written as a frame, namely that of the array of its
arguments as bulk strings. So a reader of a stream of commands gets each command with just its own
arguments, whatever bytes these hold: no argument ends a command early or begins another one.
-/

namespace SlotClient.Wire

variable (fault : Option TransportFault)

/-- A stream is drained by reading a reply and draining what is left. -/
theorem readAll_of_read_ok {bytes rest : Bytes} {value : Value}
    (succeeded : read fault bytes = (.ok value, rest)) :
    readAll fault bytes =
      { readAll fault rest with replies := value :: (readAll fault rest).replies } := by
  rw [readAll]
  split
  · rename_i failed
    simp [succeeded] at failed
  · rename_i same
    simp only [succeeded, Prod.mk.injEq, Except.ok.injEq] at same
    rcases same with ⟨rfl, rfl⟩
    rfl

theorem readAll_nil :
    readAll fault [] = ⟨[], .transport (fault.getD .endOfInput), []⟩ := by
  rw [readAll]
  split
  · rename_i failed
    simp only [read_nil, Prod.mk.injEq, Except.error.injEq] at failed
    rcases failed with ⟨rfl, rfl⟩
    rfl
  · rename_i succeeded
    simp [read_nil] at succeeded

/-- Frames are drained in order, and then what follows them. -/
theorem readAll_frames {items : List Value} {bytes : Bytes} (frames : Frames items bytes)
    (plain : ∀ item ∈ items, item.LinesAvoid Bytes.lineFeed)
    (fit : ∀ item ∈ items, item.BulksFit) (shallow : ∀ item ∈ items, item.height ≤ 8)
    (rest : Bytes) :
    readAll fault (bytes ++ rest) =
      { readAll fault rest with replies := items ++ (readAll fault rest).replies } := by
  induction items generalizing bytes with
  | nil =>
      cases frames
      rfl
  | cons item items ih =>
      cases frames with
      | @cons _ _ first others frame frames =>
          rw [List.forall_mem_cons] at plain fit shallow
          have readFirst : read fault (first ++ (others ++ rest)) = (.ok item, others ++ rest) :=
            readNested_frame fault frame plain.1 fit.1 shallow.1 _
          have drained := ih frames plain.2 fit.2 shallow.2
          rw [List.append_assoc, readAll_of_read_ok fault readFirst, drained]
          rfl

namespace Value

/-- A command as a reader sees it: the array of its arguments as bulk strings. -/
def ofCommand (arguments : List Bytes) : Value := array (arguments.map fun body => bulk (some body))

variable {arguments : List Bytes}

theorem part_ofCommand {part : Value} (isPart : part ∈ (ofCommand arguments).parts) :
    part = ofCommand arguments ∨ ∃ body ∈ arguments, part = bulk (some body) := by
  rcases mem_parts_array.mp isPart with whole | ⟨item, itemMem, inItem⟩
  · exact Or.inl whole
  · rcases List.mem_map.mp itemMem with ⟨body, bodyMem, rfl⟩
    simp only [parts, List.mem_singleton] at inItem
    exact Or.inr ⟨body, bodyMem, inItem⟩

/-- A command has no text on its lines. -/
theorem linesAvoid_ofCommand (arguments : List Bytes) (byte : UInt8) :
    (ofCommand arguments).LinesAvoid byte := by
  intro part isPart text onLine
  rcases part_ofCommand isPart with rfl | ⟨body, _, rfl⟩ <;> simp [ofCommand, lineText?] at onLine

theorem bulksFit_ofCommand (fit : ∀ argument ∈ arguments, argument.length ≤ bulkLimit) :
    (ofCommand arguments).BulksFit := by
  intro body isPart
  rcases part_ofCommand isPart with impossible | ⟨argument, member, same⟩
  · simp [ofCommand] at impossible
  · simp only [bulk.injEq, Option.some.injEq] at same
    rw [same]
    exact fit argument member

theorem height_ofCommand_le (arguments : List Bytes) : (ofCommand arguments).height ≤ 1 := by
  apply height_array_le_iff.mpr
  intro item itemMem
  rcases List.mem_map.mp itemMem with ⟨body, _, rfl⟩
  simp [height]

end Value

theorem fitsInt64_natCast {number : Nat} (bounded : number < 2 ^ 63) :
    Decimal.FitsInt64 number := by
  simp only [Decimal.FitsInt64, Decimal.leastInt64, Decimal.mostInt64]
  omega

/-- Bulk strings one behind the other, each in its written form. -/
theorem frames_flatMap_encodeBulk {bodies : List Bytes}
    (fit : ∀ body ∈ bodies, body.length < 2 ^ 63) :
    Frames (bodies.map fun body => .bulk (some body)) (bodies.flatMap encodeBulk) := by
  induction bodies with
  | nil => exact Frames.nil
  | cons body bodies ih =>
      rw [List.forall_mem_cons] at fit
      exact Frames.cons (frame_encodeBulk (fitsInt64_natCast fit.1)) (ih fit.2)

/-- The written form of a command is a frame of the array of its arguments. -/
theorem frame_encodeCommand {arguments : List Bytes} (counted : arguments.length < 2 ^ 63)
    (fit : ∀ argument ∈ arguments, argument.length < 2 ^ 63) :
    Frame (Value.ofCommand arguments) (encodeCommand arguments) := by
  have fits := fitsInt64_natCast counted
  apply Frame.array (denotes_length fits)
  · rw [List.length_map]
    exact Decimal.toInt_ofInt fits
  · exact frames_flatMap_encodeBulk fit

theorem frames_flatMap_encodeCommand {commands : List (List Bytes)}
    (counted : ∀ arguments ∈ commands, arguments.length < 2 ^ 63)
    (fit : ∀ arguments ∈ commands, ∀ argument ∈ arguments, argument.length < 2 ^ 63) :
    Frames (commands.map Value.ofCommand) (commands.flatMap encodeCommand) := by
  induction commands with
  | nil => exact Frames.nil
  | cons arguments commands ih =>
      rw [List.forall_mem_cons] at counted fit
      exact Frames.cons (frame_encodeCommand counted.1 fit.1) (ih counted.2 fit.2)

theorem encodeCommand_ne_nil (arguments : List Bytes) : encodeCommand arguments ≠ [] := by
  simp [encodeCommand, line]

/-- Commands that are written like the beginning of others are the beginning of them. -/
theorem isPrefix_of_flatMap_encodeCommand {commands others : List (List Bytes)} {rest : Bytes}
    (same : commands.flatMap encodeCommand ++ rest = others.flatMap encodeCommand) :
    commands <+: others := by
  induction commands generalizing others with
  | nil => exact List.nil_prefix
  | cons arguments commands ih =>
      cases others with
      | nil =>
          simp only [List.flatMap_cons, List.append_assoc, List.flatMap_nil,
            List.append_eq_nil_iff] at same
          exact absurd same.1 (encodeCommand_ne_nil arguments)
      | cons other others =>
          simp only [List.flatMap_cons, List.append_assoc] at same
          rcases encodeCommand_append_inj same with ⟨rfl, behind⟩
          exact (List.prefix_cons_inj _).mpr (ih behind)

/--
The written form of commands is unambiguous. From commands that are written one behind the other a
reader gets, for each command in order, the array of its arguments, and nothing is left. The limit
on an argument is that on bulk strings, and the count of arguments is one that a list in memory can
have. No two commands are written alike, none is written like the beginning of another, and commands
in a row are written like the beginning of others only if they are the beginning of them.
-/
theorem commands_are_unambiguous :
    (∀ commands : List (List Bytes),
      (∀ arguments ∈ commands, arguments.length < 2 ^ 63 ∧
        ∀ argument ∈ arguments, argument.length ≤ 512 * 1024 * 1024) →
      readAll fault (commands.flatMap encodeCommand) =
        ⟨commands.map Value.ofCommand, .transport (fault.getD .endOfInput), []⟩) ∧
    Function.Injective encodeCommand ∧
    (∀ first second, encodeCommand first <+: encodeCommand second → first = second) ∧
    ∀ commands others : List (List Bytes),
      commands.flatMap encodeCommand <+: others.flatMap encodeCommand → commands <+: others := by
  refine ⟨?_, encodeCommand_injective, ?_, ?_⟩
  · intro commands within
    have fit : ∀ arguments ∈ commands, ∀ argument ∈ arguments, argument.length ≤ bulkLimit :=
      fun arguments member => (within arguments member).2
    have frames : Frames (commands.map Value.ofCommand) (commands.flatMap encodeCommand) := by
      apply frames_flatMap_encodeCommand
      · exact fun arguments member => (within arguments member).1
      · intro arguments member argument argumentMem
        exact Nat.lt_of_le_of_lt (fit arguments member argument argumentMem) (by decide)
    have drained := readAll_frames fault frames
      (List.forall_mem_map.mpr fun arguments _ => Value.linesAvoid_ofCommand arguments _)
      (List.forall_mem_map.mpr fun arguments member => Value.bulksFit_ofCommand (fit _ member))
      (List.forall_mem_map.mpr fun arguments _ =>
        (Value.height_ofCommand_le arguments).trans (by decide)) []
    simpa only [List.append_nil, readAll_nil] using drained
  · rintro first second ⟨rest, same⟩
    rw [← List.append_nil (encodeCommand second)] at same
    exact (encodeCommand_append_inj same).1
  · rintro commands others ⟨rest, same⟩
    exact isPrefix_of_flatMap_encodeCommand same

/-- An argument that looks like a command is read as an argument. -/
theorem commands_are_unambiguous_nested :
    readAll none (encodeCommand [[71, 69, 84], encodeCommand [[68]], []] ++
        (encodeCommand [] ++ [])) =
      ⟨[.array [.bulk (some [71, 69, 84]), .bulk (some (encodeCommand [[68]])), .bulk (some [])],
        .array []], .transport .endOfInput, []⟩ := by
  apply (commands_are_unambiguous none).1 [[[71, 69, 84], encodeCommand [[68]], []], []]
  simp [encodeCommand, encodeBulk, line, Decimal.digits, Bytes.lineEnd]

end SlotClient.Wire
