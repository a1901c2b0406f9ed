import DawnServer.CommandLine.Run
import DawnServer.Proofs.Framework.Tables
import DawnServer.Proofs.Session.FillOnce

/-!
# The payload of a framework file

The text that is printed for a framework file is the notification with which a client sends its
table: reading that text gives the table back, and a session without a table stores exactly the
one in the file (`printed_payload_restores_table`).
-/

namespace DawnServer

/-- **The printed payload restores the table.**  Every table is read back from its JSON text.
For a framework file that can be read, the program prints such a text, with or without the line
break at its end; and a client that sends it, to a session that is served and has no table yet,
makes the session store the table in the file. -/
theorem printed_payload_restores_table :
    (∀ table : Table, (Json.parse? table.toJson.pretty >>= Table.ofJson?) = some table) ∧
    ∀ (reader : FileReader) (path source : Text), reader (Utf8.encode path) = .ok source →
      ∃ table payload params,
        Table.read reader (Utf8.encode path) = .ok table ∧
        Table.payload reader (Utf8.encode path) = .ok payload ∧
        (RunResult.printing reader path).exitCode = 0 ∧
        (RunResult.printing reader path).output = payload ++ ['\n'] ∧
        Json.parse? payload = some params ∧
        Json.parse? (RunResult.printing reader path).output = some params ∧
        ∀ working files settings history, Served history →
          World.registryAfter working files settings history = Registry.empty →
          World.registryAfter working files settings
              (history ++ [.message ⟨none, "dawn/framework".toList, some params⟩]) =
            Registry.filled table .notification := by
  constructor
  · intro table
    rw [Json.parse?_pretty table.numberless_toJson, Option.bind_eq_bind, Option.bind_some, Table.ofJson?_toJson]
  · intro reader path source hsource
    have hread : Table.read reader (Utf8.encode path) = .ok (Table.parse source) := by
      rw [Table.read, hsource]
    have hpayload : Table.payload reader (Utf8.encode path) =
        .ok (Table.parse source).toJson.pretty := by
      rw [Table.payload, hread]
      rfl
    have hprinting : RunResult.printing reader path =
        ⟨0, (Table.parse source).toJson.pretty ++ ['\n'], [], [], 0⟩ := by
      rw [RunResult.printing, hpayload]
    refine ⟨Table.parse source, (Table.parse source).toJson.pretty, (Table.parse source).toJson,
      hread, hpayload, ?_, ?_, ?_, ?_, ?_⟩
    · rw [hprinting]
    · rw [hprinting]
    · exact Json.parse?_pretty (Table.parse source).numberless_toJson
    · rw [hprinting]
      exact Json.parse?_pretty_append (Table.parse source).numberless_toJson rfl
    · intro working files settings history hserved hempty
      rw [World.registryAfter_of_provides (.notified hserved (Table.ofJson?_toJson _)), hempty,
        Registry.provide_empty]

open Sample in
theorem printed_payload_restores_table_beside :
    (FileTree.empty.following [lay]).reader [] (Utf8.encode "/p/framework.fw".toList) =
        .ok "funcs:\njump\n;\n".toList ∧
      Served [start] ∧
      World.registryAfter [] FileTree.empty ⟨none, .exact, .off⟩ [start] = Registry.empty ∧
      ∃ payload params,
        (RunResult.printing ((FileTree.empty.following [lay]).reader [])
          "/p/framework.fw".toList).output = payload ++ ['\n'] ∧
        Json.parse? payload = some params ∧
        World.registryAfter [] FileTree.empty ⟨none, .exact, .off⟩
            ([start] ++ [.message ⟨none, "dawn/framework".toList, some params⟩]) =
          Registry.filled table .notification := by
  have hsource : (FileTree.empty.following [lay]).reader []
      (Utf8.encode "/p/framework.fw".toList) = .ok "funcs:\njump\n;\n".toList := by
    decide +kernel
  have hserved : Served [start] := by decide +kernel
  have hempty : World.registryAfter [] FileTree.empty ⟨none, .exact, .off⟩ [start] =
      Registry.empty := by decide +kernel
  have htable : Table.read ((FileTree.empty.following [lay]).reader [])
      (Utf8.encode "/p/framework.fw".toList) = .ok table := by
    rw [Table.read, hsource]
    decide +kernel
  obtain ⟨read, payload, params, hread, -, -, houtput, hparse, -, hstores⟩ :=
    printed_payload_restores_table.2 _ _ _ hsource
  obtain rfl : table = read := Except.ok.inj (htable.symm.trans hread)
  exact ⟨hsource, hserved, hempty, payload, params, houtput, hparse,
    hstores [] FileTree.empty ⟨none, .exact, .off⟩ [start] hserved hempty⟩

end DawnServer
