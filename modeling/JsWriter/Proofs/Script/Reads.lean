import JsWriter.Proofs.Json.Reads
import JsWriter.Proofs.Script.Accepts
import JsWriter.Script.Stream

/-!
# Reading undoes writing

A script may be written in many ways: a value presents it in one of its forms, and a text spells that
value. Every text so obtained reads as the script.
-/
namespace JsWriter

/-- **Every way of writing a script reads as that script**, of the same form and with the same
statements, when lists and objects are nested at most 127 deep in the text. -/
theorem read_of_written (script : Script) (json : Json) (text : String)
    (hp : script.PresentedBy Op.IsTag json) (ht : json.HasText text) (hd : json.depth ≤ 127) :
    Script.read text = .ok script := by
  obtain ⟨after, ha, run⟩ :=
    Json.reader_run_text ht (show json.depth ≤ Json.depthLimit from hd)
  have decoded := (Script.decoded_iff script json).mpr hp
  simp [Script.read, Script.reader, Reader.whole, Reader.andThen, Reader.ofFaults, run, Reader.lift,
    decoded, Except.map, Reader.finish_blanks ha]

open Json.Text (speltAs_quoted)

/-- A statement as a list and one as an object, escapes, blanks, and a member of no interest. -/
theorem read_of_written_both_shapes :
    Script.read
      " [[\"var\",\"\\u0078\"],\t\x7b\"more\":-12,\"op\": \"line\",\"text\":\"\\uD83d\\ude00\"\x7d]\n" =
      .ok (.statements [.var "x" none, .line "😀"]) := by
  have x : Json.Text.SpeltAs "x" "\"\\u0078\"".toList :=
    ⟨_, .cons (.unit ['0', '0', '7', '8'] (by decide)
      ⟨_, _, _, _, rfl, .inl rfl, .inl rfl, .inl rfl, .inl rfl⟩) .nil, rfl⟩
  have smile : Json.Text.SpeltAs "😀" "\"\\uD83d\\ude00\"".toList :=
    ⟨_, .cons (.pair ['D', '8', '3', 'd'] ['d', 'e', '0', '0'] (by decide)
      ⟨_, _, _, _, rfl, .inr rfl, .inl rfl, .inl rfl, .inl rfl⟩
      ⟨_, _, _, _, rfl, .inl rfl, .inl rfl, .inl rfl, .inl rfl⟩) .nil, rfl⟩
  have number : Number.SpeltAs (.int (-12)) "-12".toList :=
    ⟨⟨true, ['1', '2'], [], none⟩, rfl, ['-'], ['1', '2'], [], [], rfl,
      ⟨rfl, .inr ⟨⟨by simp, by simp⟩, by simp⟩⟩, .inl ⟨rfl, rfl⟩, rfl, rfl⟩
  have nothing : Json.AreBlanks [] := by simp [Json.AreBlanks]
  have first : Json.IsSeparator true [] := nothing
  have comma : Json.IsSeparator false [','] := ⟨[], [], nothing, nothing, rfl⟩
  have tab : Json.IsSeparator false [',', '\t'] := ⟨[], ['\t'], nothing, by simp [Json.AreBlanks], rfl⟩
  have var : Json.SpeltAs (.list [.scalar (.string "var"), .scalar (.string "x")])
      "[\"var\",\"\\u0078\"]".toList :=
    ⟨_, ⟨[], _, _, first, @speltAs_quoted "var" (by simp), ⟨[','], _, _, comma, x,
      ⟨[], nothing, rfl⟩, rfl⟩, rfl⟩, rfl⟩
  have line : Json.SpeltAs
      (.object [("more", .scalar (.number (.int (-12)))), ("op", .scalar (.string "line")),
        ("text", .scalar (.string "😀"))])
      "\x7b\"more\":-12,\"op\": \"line\",\"text\":\"\\uD83d\\ude00\"\x7d".toList :=
    ⟨_, ⟨[], _, [], [], _, _, first, @speltAs_quoted "more" (by simp), nothing, nothing, number,
      ⟨[','], _, [], [' '], _, _, comma, @speltAs_quoted "op" (by simp), nothing, by simp [Json.AreBlanks],
        @speltAs_quoted "line" (by simp),
      ⟨[','], _, [], [], _, _, comma, @speltAs_quoted "text" (by simp), nothing, nothing, smile,
      ⟨[], nothing, rfl⟩, rfl⟩, rfl⟩, rfl⟩, rfl⟩
  refine read_of_written (.statements [.var "x" none, .line "😀"])
    (.list [.list [.scalar (.string "var"), .scalar (.string "x")],
      .object [("more", .scalar (.number (.int (-12)))), ("op", .scalar (.string "line")),
        ("text", .scalar (.string "😀"))]]) _ ?_ ?_ ?_
  · exact ⟨⟨_, _, none, .inl rfl, ⟨rfl, rfl, rfl, fun _ => List.mem_singleton.mp⟩, rfl, .inl rfl⟩,
      ⟨_, some (.scalar (.string "😀")), .inl rfl, rfl, rfl⟩, trivial⟩
  · exact ⟨[' '], _, ['\n'], by simp [Json.AreBlanks], ⟨_, ⟨[], _, _, first, var,
      ⟨[',', '\t'], _, _, tab, line, ⟨[], nothing, rfl⟩, rfl⟩, rfl⟩, rfl⟩, by simp [Json.AreBlanks],
      by simp⟩
  · decide

end JsWriter
