import SlotClient.Proofs.Wire.Frame

/-!
# Pieces of frames

A frame consists of pieces, each of which is read as a whole: its lines, and the bodies of its bulk
strings with the line ends behind them. If a frame breaks off, this is in one of its pieces, and so
at one of three kinds of places: where a line would begin, inside a line, or anywhere in the body of
a bulk string or the line end behind it.
-/

namespace SlotClient.Wire

/-- A part of a frame that is read as a whole. The body of a bulk string has a line end behind it. -/
inductive Piece where
  | line (marker : UInt8) (content : Bytes)
  | body (content : Bytes)

def Piece.written : Piece → Bytes
  | line marker content => Wire.line marker content
  | body content => content ++ Bytes.lineEnd

/-- The bytes of pieces, one behind the other. -/
def written (pieces : List Piece) : Bytes := pieces.flatMap Piece.written

theorem written_append (front back : List Piece) :
    written (front ++ back) = written front ++ written back :=
  List.flatMap_append

theorem written_cons (piece : Piece) (pieces : List Piece) :
    written (piece :: pieces) = piece.written ++ written pieces :=
  List.flatMap_cons

theorem written_singleton (piece : Piece) : written [piece] = piece.written :=
  List.flatMap_singleton ..

mutual

/-- The pieces of the frames of a value. -/
inductive Layout : Value → List Piece → Prop
  | simple (text : Bytes) : Layout (.simple text) [.line simpleMarker text]
  | error (message : Bytes) : Layout (.error message) [.line errorMarker message]
  | integer {text : Bytes} {number : Int64} (denotes : Decimal.Denotes text number.toInt) :
      Layout (.integer number) [.line integerMarker text]
  | null {marker : UInt8} {text : Bytes} {number : Int64}
      (counted : marker = bulkMarker ∨ marker = arrayMarker)
      (denotes : Decimal.Denotes text number.toInt) (negative : number < 0) :
      Layout .null [.line marker text]
  | bulk {text body : Bytes} {number : Int64} (denotes : Decimal.Denotes text number.toInt)
      (length : number.toInt = body.length) :
      Layout (.bulk (some body)) [.line bulkMarker text, .body body]
  | array {text : Bytes} {number : Int64} {items : List Value} {pieces : List Piece}
      (denotes : Decimal.Denotes text number.toInt) (count : number.toInt = items.length)
      (layouts : Layouts items pieces) : Layout (.array items) (.line arrayMarker text :: pieces)

/-- The pieces of the frames of several values, one behind the other. -/
inductive Layouts : List Value → List Piece → Prop
  | nil : Layouts [] []
  | cons {item : Value} {rest : List Value} {first others : List Piece} (layout : Layout item first)
      (layouts : Layouts rest others) : Layouts (item :: rest) (first ++ others)

end

mutual

theorem Layout.frame {value : Value} {pieces : List Piece} (layout : Layout value pieces) :
    Frame value (written pieces) := by
  cases layout with
  | simple text => exact written_singleton _ ▸ .simple text
  | error message => exact written_singleton _ ▸ .error message
  | integer denotes => exact written_singleton _ ▸ .integer denotes
  | null counted denotes negative => exact written_singleton _ ▸ .null counted denotes negative
  | bulk denotes length =>
      rw [written_cons, written_singleton, Piece.written, Piece.written, ← List.append_assoc]
      exact .bulk denotes length
  | array denotes count layouts => exact written_cons _ _ ▸ .array denotes count layouts.frames

theorem Layouts.frames {items : List Value} {pieces : List Piece} (layouts : Layouts items pieces) :
    Frames items (written pieces) := by
  cases layouts with
  | nil => exact .nil
  | cons layout layouts => exact written_append _ _ ▸ .cons layout.frame layouts.frames

end

mutual

theorem Frame.layout {value : Value} {bytes : Bytes} (frame : Frame value bytes) :
    ∃ pieces, Layout value pieces ∧ written pieces = bytes := by
  cases frame with
  | simple text => exact ⟨_, .simple text, written_singleton _⟩
  | error message => exact ⟨_, .error message, written_singleton _⟩
  | integer denotes => exact ⟨_, .integer denotes, written_singleton _⟩
  | null counted denotes negative =>
      exact ⟨_, .null counted denotes negative, written_singleton _⟩
  | bulk denotes length =>
      refine ⟨_, .bulk denotes length, ?_⟩
      rw [written_cons, written_singleton, Piece.written, Piece.written, ← List.append_assoc]
  | array denotes count frames =>
      rcases frames.layouts with ⟨pieces, layouts, rfl⟩
      exact ⟨_, .array denotes count layouts, written_cons _ _⟩

theorem Frames.layouts {items : List Value} {bytes : Bytes} (frames : Frames items bytes) :
    ∃ pieces, Layouts items pieces ∧ written pieces = bytes := by
  cases frames with
  | nil => exact ⟨[], .nil, rfl⟩
  | cons frame frames =>
      rcases frame.layout with ⟨first, layout, rfl⟩
      rcases frames.layouts with ⟨others, layouts, rfl⟩
      exact ⟨first ++ others, .cons layout layouts, written_append first others⟩

end

/-- The frames of a value are just the bytes of its pieces. -/
theorem frame_iff {value : Value} {bytes : Bytes} :
    Frame value bytes ↔ ∃ pieces, Layout value pieces ∧ written pieces = bytes := by
  constructor
  · exact Frame.layout
  · rintro ⟨pieces, layout, rfl⟩
    exact layout.frame

/-- Where a frame breaks off. -/
inductive Place where
  | beforeLine
  | insideLine
  | insideBody
  deriving DecidableEq, Repr

/-- Pieces break off behind some bytes. What is kept of the piece in which they break off is nothing
of a line, a part of a line, or a part of a body with its line end or nothing of it. -/
inductive BreaksOff : List Piece → Bytes → Place → Prop
  | beforeLine (marker : UInt8) (content : Bytes) (rest : List Piece) :
      BreaksOff (.line marker content :: rest) [] .beforeLine
  | insideLine {marker : UInt8} {content kept lost : Bytes} (begun : kept ≠ [])
      (incomplete : lost ≠ []) (split : line marker content = kept ++ lost) (rest : List Piece) :
      BreaksOff (.line marker content :: rest) kept .insideLine
  | insideBody {content kept lost : Bytes} (incomplete : lost ≠ [])
      (split : content ++ Bytes.lineEnd = kept ++ lost) (rest : List Piece) :
      BreaksOff (.body content :: rest) kept .insideBody
  | behind {rest : List Piece} {cut : Bytes} {place : Place} (piece : Piece)
      (later : BreaksOff rest cut place) : BreaksOff (piece :: rest) (piece.written ++ cut) place

/-- Where two pieces break off: inside the first, or at its end or later. -/
theorem append_cut {first second cut missing : Bytes} (whole : first ++ second = cut ++ missing) :
    (∃ lost, lost ≠ [] ∧ first = cut ++ lost) ∨
      ∃ kept, cut = first ++ kept ∧ second = kept ++ missing := by
  rcases List.append_eq_append_iff.mp whole with ⟨kept, cutEq, secondEq⟩ | ⟨lost, firstEq, missEq⟩
  · exact Or.inr ⟨kept, cutEq, secondEq⟩
  · rcases lost with _ | ⟨byte, lost⟩
    · rw [List.append_nil] at firstEq
      exact Or.inr ⟨[], by rw [firstEq, List.append_nil], missEq.symm⟩
    · exact Or.inl ⟨byte :: lost, List.cons_ne_nil _ _, firstEq⟩

/-- Bytes that are missing at the end are missing from some piece on. -/
theorem exists_breaksOff {pieces : List Piece} {cut lost : Bytes} (incomplete : lost ≠ [])
    (broken : written pieces = cut ++ lost) : ∃ place, BreaksOff pieces cut place := by
  induction pieces generalizing cut with
  | nil => exact absurd (List.append_eq_nil_iff.mp broken.symm).2 incomplete
  | cons piece rest ih =>
      rw [written_cons] at broken
      rcases append_cut broken with ⟨missing, some, pieceEq⟩ | ⟨kept, rfl, restEq⟩
      · rcases piece with ⟨marker, content⟩ | content
        · by_cases begun : cut = []
          · exact ⟨.beforeLine, begun ▸ .beforeLine marker content rest⟩
          · exact ⟨.insideLine, .insideLine begun some pieceEq rest⟩
        · exact ⟨.insideBody, .insideBody some pieceEq rest⟩
      · rcases ih restEq with ⟨place, later⟩
        exact ⟨place, .behind piece later⟩

/-- Pieces behind others break off in the former or in the latter. -/
theorem BreaksOff.append_cases (front : List Piece) {back : List Piece} {cut : Bytes}
    {place : Place} (breaks : BreaksOff (front ++ back) cut place) :
    BreaksOff front cut place ∨ ∃ kept, cut = written front ++ kept ∧ BreaksOff back kept place := by
  induction front generalizing cut with
  | nil => exact Or.inr ⟨cut, rfl, breaks⟩
  | cons piece front ih =>
      cases breaks with
      | beforeLine marker content rest => exact Or.inl (.beforeLine marker content front)
      | insideLine begun incomplete split rest =>
          exact Or.inl (.insideLine begun incomplete split front)
      | insideBody incomplete split rest => exact Or.inl (.insideBody incomplete split front)
      | behind piece later =>
          rcases ih later with inFront | ⟨kept, rfl, inBack⟩
          · exact Or.inl (.behind piece inFront)
          · refine Or.inr ⟨kept, ?_, inBack⟩
            rw [written_cons, List.append_assoc]

end SlotClient.Wire
