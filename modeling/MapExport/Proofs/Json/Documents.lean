import MapExport.Job.Codec
import MapExport.Proofs.Json.Members
import MapExport.Queue.Broker
import MapExport.Run.Codec

/-!
# Documents that are read back

Runs, messages, configurations, formats, users and tables of tags leave the process as the text of a document, and
come back by reading it. What is read is what was written, whatever the texts, identifiers and instants in it are:
each record is one level deep, its fields are printed all under names of their own, and what the fields hold is read
back by itself.
-/

set_option autoImplicit false

namespace MapExport

open Json

/-! ## A whole text -/

/-- **A whole text is read back** if the value is not nested more deeply than any text may be. -/
theorem Json.Codec.ReadsBack.ofText_render {α : Type} {c : Codec α} {depth : Nat} {a : α} (h : c.ReadsBack depth a)
    (hdepth : depth ≤ maxLevels) : c.ofText (c.print a).render = .ok a := by
  have hread := h maxLevels [] hdepth
  rw [List.append_nil] at hread
  rw [Codec.ofText_render, readWhole, hread]
  rfl

/-! ## The names of the enumerations -/

theorem RunStatus.names_name : Keyed.Names name names where
  distinct := by decide
  own status := by cases status <;> decide
  only := by decide

theorem ConfigKind.names_name : Keyed.Names name names where
  distinct := by decide
  own kind := by cases kind <;> decide
  only := by decide

theorem FeatureKind.names_name : Keyed.Names name names where
  distinct := by decide
  own kind := by cases kind <;> decide
  only := by decide

/-! ## The records -/

theorem Run.readsBack (run : Run) : Run.codec.ReadsBack 1 run := by
  have hnotified : Codec.instant.option.ReadsBack 0 run.notified := by
    apply Codec.readsBack_option
    intro t _
    exact ⟨Codec.readsBack_instant t, visible_text t.text⟩
  refine Codec.readsBack_record "ExportRun" ?_ ?_ ?_ rfl
  · decide
  · decide
  · exact ⟨Codec.readsBack_uid run.uid, Codec.readsBack_uid run.job, Codec.readsBack_uid run.owner,
      Codec.readsBack_choice RunStatus.names_name run.status, Codec.readsBack_instant run.createdAt,
      Codec.readsBack_instant run.expiration, hnotified, trivial⟩

theorem Queue.Message.readsBack (m : Queue.Message) : Queue.Message.codec.ReadsBack 1 m := by
  refine Codec.readsBack_record "DispatchMessage" ?_ ?_ ?_ rfl
  · decide
  · decide
  · exact ⟨Codec.readsBack_uid m.job, Codec.readsBack_instant m.enqueuedAt, trivial⟩

theorem Config.readsBack (config : Config) : Config.codec.ReadsBack 1 config := by
  refine Codec.readsBack_record "ExportConfig" ?_ ?_ ?_ rfl
  · decide
  · decide
  · exact ⟨Codec.readsBack_uid config.uid, Codec.readsBack_text config.name,
      Codec.readsBack_choice ConfigKind.names_name config.kind, Codec.readsBack_text config.upload,
      Codec.readsBack_bool config.published, Codec.readsBack_instant config.createdAt, trivial⟩

theorem Format.readsBack (format : Format) : Format.codec.ReadsBack 1 format := by
  refine Codec.readsBack_record "ExportFormat" ?_ ?_ ?_ rfl
  · decide
  · decide
  · exact ⟨Codec.readsBack_text format.slug, Codec.readsBack_text format.name,
      Codec.readsBack_text format.description, trivial⟩

theorem User.readsBack (user : User) : User.codec.ReadsBack 1 user := by
  have hemail : Codec.text.option.ReadsBack 0 user.email := by
    apply Codec.readsBack_option
    intro address _
    exact ⟨Codec.readsBack_text address, visible_text address⟩
  refine Codec.readsBack_record "User" ?_ ?_ ?_ rfl
  · decide
  · decide
  · exact ⟨Codec.readsBack_uid user.id, Codec.readsBack_text user.username, hemail, trivial⟩

/-- A table holds lists, so it is two levels deep. -/
theorem TagTable.readsBack {table : TagTable} (h : Ordered table) : TagTable.codec.ReadsBack 2 table := by
  apply Codec.readsBack_table h
  intro entry _
  apply Codec.readsBack_list
  intro kind _
  exact ⟨Codec.readsBack_choice FeatureKind.names_name kind, visible_text kind.name⟩

end MapExport
