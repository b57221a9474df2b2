import EntityDiagram.Diagram.Minimal
import EntityDiagram.Diagram.Recorder
import EntityDiagram.Diagram.TableName
import EntityDiagram.Proofs.Document.Unicode
import EntityDiagram.Proofs.Outcome

/-!
# Drawing with hashed names

A hashed name digests the bytes of a table's and a field's name, so it exists for names without
surrogates.  Structures with such names can therefore be drawn, and models can be rendered exactly
when their own names can be written.
-/

namespace EntityDiagram

namespace Text

/-- A text without surrogates has bytes. -/
theorem utf8Encode_of_isUnicode {text : Text} (unicode : text.isUnicode = true) :
    utf8Encode text = .ok (text.flatMap utf8Bytes) := by
  have taken : (text ++ []).takeWhile (fun c => !c.isSurrogate) =
      text ++ [].takeWhile (fun c => !c.isSurrogate) :=
    List.takeWhile_append_of_pos (List.all_eq_true.mp unicode)
  have faultless : surrogateFault? (fun c => !c.isSurrogate) text = none := by
    simp only [List.append_nil, List.takeWhile_nil] at taken
    simp [surrogateFault?, taken]
  rw [utf8Encode, faultless]

end Text

theorem hashedName_returns {table field : Text} (tableUnicode : table.isUnicode = true)
    (fieldUnicode : field.isUnicode = true) :
    ∃ name, hashedName table field = .ok name ∧ name.isUnicode = true := by
  have placeUnicode : (table ++ "." ++ field).isUnicode = true := by
    simp [tableUnicode, fieldUnicode]
  have encoded := Text.utf8Encode_of_isUnicode placeUnicode
  refine ⟨suffixedName field _, by rw [hashedName, encoded]; rfl, ?_⟩
  simp [suffixedName, fieldUnicode]

/-! ### Structures -/

theorem drawNodes_returns_of_forall {ε : Type} {naming : Naming (Except ε)} {table : Text}
    {nodes : List Node} (each : ∀ node ∈ nodes, ∃ field, drawNode naming table node = .ok field) :
    ∃ fields, drawNodes naming table nodes = .ok fields := by
  induction nodes with
  | nil => exact ⟨[], by rw [drawNodes]; rfl⟩
  | cons node nodes ih =>
      obtain ⟨⟨field, first⟩, others⟩ := List.forall_mem_cons.mp each
      obtain ⟨fields, rest⟩ := ih others
      exact ⟨field :: fields, by rw [drawNodes, first, rest]; rfl⟩

theorem drawNode_hashed_returns {node : Node}
    (within : node.NamesWithin fun name => name.isUnicode = true) {table : Text}
    (unicode : table.isUnicode = true) : ∃ field, drawNode hashedNaming table node = .ok field := by
  induction within generalizing table with
  | @mk name kind options children own _ below =>
      rw [drawNode]
      split
      · exact ⟨_, rfl⟩
      · obtain ⟨target, hashed, targetUnicode⟩ := hashedName_returns unicode own
        have named : hashedNaming.nested table name = .ok target := by
          exact mapError_eq_ok_iff.mpr hashed
        have drawn : ∃ fields, drawChildren hashedNaming target children = .ok fields := by
          cases children with
          | none => exact ⟨[], by rw [drawChildren]; rfl⟩
          | some nodes =>
              rw [drawChildren]
              exact drawNodes_returns_of_forall fun child member =>
                below nodes rfl child member targetUnicode
        obtain ⟨fields, drawn⟩ := drawn
        exact ⟨_, by rw [named, bind_ok, drawn, bind_ok]; rfl⟩

theorem drawNodes_hashed_returns {forest : Forest}
    (within : forest.NamesWithin fun name => name.isUnicode = true) {table : Text}
    (unicode : table.isUnicode = true) :
    ∃ fields, drawNodes hashedNaming table forest = .ok fields :=
  drawNodes_returns_of_forall fun node member =>
    drawNode_hashed_returns (within node member) unicode

/-! ### Models -/

/-- A model whose own name and all names in its structure are without surrogates. -/
structure EntityModel.Unicode (model : EntityModel) : Prop where
  name : model.name.isUnicode = true
  forest : model.forest.NamesWithin fun name => name.isUnicode = true

theorem written_returns_iff {scalar : Scalar} :
    (∃ name, scalar.written = .ok name) ↔ scalar.isWritable = true := by
  unfold Scalar.written
  split
  · next writable => simp [writable]
  · next unwritable => simp [unwritable]

theorem EntityModel.Unicode.drawing_iff {model : EntityModel} (unicode : model.Unicode) :
    (∃ drawing, Drawing.ofModel hashedNaming model = .ok drawing) ↔
      model.name.isWritable = true := by
  rw [← written_returns_iff]
  simp only [Drawing.ofModel, bind_eq_ok_iff]
  constructor
  · rintro ⟨drawing, name, written, -⟩
    exact ⟨name, written⟩
  · rintro ⟨name, written⟩
    have nameUnicode : name.isUnicode = true := by
      rw [(written_yields model.name).good name written]
      exact Scalar.isUnicode_display unicode.name
    obtain ⟨fields, drawn⟩ := drawNodes_hashed_returns unicode.forest nameUnicode
    exact ⟨_, name, written, fields, drawn, rfl⟩

theorem drawAll_hashed_iff {models : List EntityModel}
    (unicode : ∀ model ∈ models, model.Unicode) (recorder : Recorder) :
    (∃ drawn, Recorder.drawAll hashedNaming models recorder = .ok drawn) ↔
      ∀ model ∈ models, model.name.isWritable = true := by
  induction models generalizing recorder with
  | nil => exact ⟨fun _ => by simp, fun _ => ⟨([], recorder), rfl⟩⟩
  | cons model models ih =>
      obtain ⟨modelUnicode, restUnicode⟩ := List.forall_mem_cons.mp unicode
      have restIff := ih restUnicode
      rw [List.forall_mem_cons, ← modelUnicode.drawing_iff]
      simp only [Recorder.drawAll, bind_eq_ok_iff]
      constructor
      · rintro ⟨drawn, drawing, first, rest, others, -⟩
        exact ⟨⟨drawing, first⟩, (restIff _).mp ⟨rest, others⟩⟩
      · rintro ⟨⟨drawing, first⟩, writable⟩
        obtain ⟨rest, others⟩ := (restIff _).mpr writable
        exact ⟨_, drawing, first, rest, others, rfl⟩

/-- The full diagram of models can be rendered exactly when their names can be written. -/
theorem render_hashed_iff {models : List EntityModel}
    (unicode : ∀ model ∈ models, model.Unicode) (recorder : Recorder) :
    (∃ drawn, Recorder.render hashedNaming models recorder = .ok drawn) ↔
      ∀ model ∈ models, model.name.isWritable = true := by
  rw [← drawAll_hashed_iff unicode Recorder.start]
  simp only [Recorder.render, bind_eq_ok_iff]
  constructor
  · rintro ⟨drawn, drawings, all, -⟩
    exact ⟨drawings, all⟩
  · rintro ⟨drawings, all⟩
    exact ⟨_, drawings, all, rfl⟩

/-- So can the minimal one, whatever the names in the structures are. -/
theorem writeMinimal_iff {models : List EntityModel} :
    (∃ text, writeMinimal models = .ok text) ↔
      ∀ model ∈ models, model.name.isWritable = true := by
  have checks : (models.forM fun model => discard model.name.written) = .ok () ↔
      ∀ model ∈ models, model.name.isWritable = true := by
    rw [forM_eq_ok_iff]
    refine forall₂_congr fun model _ => ?_
    rw [discard_eq_ok_iff, written_returns_iff]
  rw [← checks]
  simp only [writeMinimal, bind_eq_ok_iff]
  constructor
  · rintro ⟨text, ⟨⟩, all, -⟩
    exact all
  · intro all
    exact ⟨_, (), all, rfl⟩

end EntityDiagram
