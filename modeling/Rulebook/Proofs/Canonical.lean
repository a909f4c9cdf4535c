import Rulebook.Proofs.Catalog.Written
import Rulebook.Proofs.Json.Numeral
import Rulebook.Proofs.Nesting
import Rulebook.Proofs.Outcome
import Rulebook.Proofs.Project

namespace Rulebook

open Document

namespace Json

/-- The prints of the value, on one line or indented, are read as the value, so printing what was
read from a print gives that print again. -/
def PrintsBack {α : Type} (reader : Reader α) (toJson : α → Json) (a : α) : Prop :=
  ∀ write ∈ [compact, indented],
    read reader (write (toJson a)) = .ok a ∧
      (read reader (write (toJson a))).map (fun b => write (toJson b)) = .ok (write (toJson a))

theorem printsBack {α : Type} {reader : Reader α} {toJson : α → Json} {a : α}
    (htakes : reader.Takes (toJson a) a) (hreadable : (toJson a).Readable) :
    PrintsBack reader toJson a := by
  intro write hwrite
  have hprinted : write (toJson a) ∈ (toJson a).printed :=
    List.mem_map_of_mem (f := fun write => write (toJson a)) hwrite
  have hread : read reader (write (toJson a)) = .ok a :=
    (read_printed reader hreadable hprinted).trans (htakes .json)
  exact ⟨hread, by rw [hread]; rfl⟩

end Json

/-- A text that is accepted as a catalog document, a project or a request stands for a value whose
prints are accepted as that value and print to themselves. Only the numbers among the constraints
have to be such that their print is read as the number. -/
theorem accepted_printsBack (text : String) :
    (∀ document, Json.read CatalogDocument.read text = .ok document →
      Json.AllNumbers Json.ReadsBack document.toJson →
        Json.PrintsBack CatalogDocument.read CatalogDocument.toJson document) ∧
    (∀ project, Json.read Project.read text = .ok project →
      Json.PrintsBack Project.read Project.toJson project) ∧
    ∀ request, Json.read Request.read text = .ok request →
      Json.PrintsBack Request.read Request.toJson request := by
  refine ⟨fun document hread hnumbers => ?_, fun project _ => ?_, fun request _ => ?_⟩
  · exact Json.printsBack document.takes_toJson
      ⟨hnumbers, CatalogDocument.nests_read.depth_le_of_read (by decide) hread⟩
  · refine Json.printsBack project.takes_toJson ⟨project.allNumbers_toJson _, ?_⟩
    rw [project.depth_toJson]
    decide
  · refine Json.printsBack request.takes_toJson ⟨request.allNumbers_toJson _, ?_⟩
    exact Nat.le_trans request.depth_toJson_le (by decide)

/-- The number is written as an integer. -/
def JsonNumber.IsInteger : JsonNumber → Bool
  | .integer _ => true
  | .double _ => false

/-- Written every way but the printed one: with a note that no field takes, a rule under the other
name of its intents, which repeat, a ruleset as an array without its last fields, and constraints
that repeat their names at two levels. -/
def oddCatalogChars : List Char :=
  "\x7b\"note\":0,\"rulesets\":[[\"r\",\"R\"]],\"rules\":[\x7b\"title\":\"A\",\"id\":\"a\",".toList ++
    "\"severity\":\x7b\"warn\":null\x7d,\"intents\":[\"review\",\"generate\",\"review\"],".toList ++
    "\"directive\":\"\",\"contributesConstraints\":".toList ++
    "\x7b\"b\":\x7b\"z\":1,\"y\":[],\"z\":2\x7d,\"a\":-7,\"b\":3\x7d\x7d]\x7d".toList

def oddCatalogText : String :=
  String.ofList oddCatalogChars

def oddProjectText : String :=
  "[\"w\",\"\",\"p\",\"r\",\x7b\"b\":true,\"a\":false,\"b\":false\x7d]"

def oddRequestText : String :=
  "\x7b\"x\":[\x7b\x7d],\"commandId\":\"c\",\"pathHints\":[],\"projectId\":\"w\"\x7d"

theorem accepted_printsBack_odd :
    (∃ document, Json.read CatalogDocument.read oddCatalogText = .ok document ∧
      Json.PrintsBack CatalogDocument.read CatalogDocument.toJson document) ∧
    (∃ project, Json.read Project.read oddProjectText = .ok project ∧
      Json.PrintsBack Project.read Project.toJson project) ∧
    ∃ request, Json.read Request.read oddRequestText = .ok request ∧
      Json.PrintsBack Request.read Request.toJson request := by
  obtain ⟨document, hdocument, hintegers⟩ : ∃ document,
      Json.read CatalogDocument.read oddCatalogText = .ok document ∧
        decide (document.toJson.AllNumbers fun n => n.IsInteger) = true := by
    refine exists_ok_of_any ?_
    rw [oddCatalogText, Json.read, Json.document, String.toList_ofList]
    decide +kernel
  obtain ⟨project, hproject, -⟩ : ∃ project,
      Json.read Project.read oddProjectText = .ok project ∧ project.toggles.size == 2 :=
    exists_ok_of_any (by decide +kernel)
  obtain ⟨request, hrequest, -⟩ : ∃ request,
      Json.read Request.read oddRequestText = .ok request ∧ request.pathHints.isEmpty :=
    exists_ok_of_any (by decide +kernel)
  have hnumbers : document.toJson.AllNumbers Json.ReadsBack := by
    refine Json.AllNumbers.imp (fun n hn => ?_) _ (of_decide_eq_true hintegers)
    cases n with
    | integer i => exact Json.readsBack_integer i
    | double d => cases hn
  exact ⟨⟨document, hdocument, (accepted_printsBack _).1 document hdocument hnumbers⟩,
    ⟨project, hproject, (accepted_printsBack _).2.1 project hproject⟩,
    ⟨request, hrequest, (accepted_printsBack _).2.2 request hrequest⟩⟩

end Rulebook
