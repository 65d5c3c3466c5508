import Ownership.Account
import Ownership.Document.Check
import Ownership.OwnerConfig
import Ownership.Project

/-!
# Records of documents

How the records of the library are written in documents: the names of their fields, which of them
may be left out, and the rules over their values.
-/

namespace Ownership
namespace Document

def pathRule (result : Except PathError α) : Check α :=
  Check.rule (result.mapError PathError.message)

def absolutePath : Reader String := fun json =>
  (Reader.text json).andThen fun path => pathRule (Path.normalize path)

/-!
# Owner configurations
-/

def remark : Reader Remark := Reader.record fun members =>
  Remark.mk <$> Reader.field members "key" Reader.text
    <*> Reader.fieldD members "value" none (Reader.nullable Reader.text)

def ownerRef : Reader OwnerRef := Reader.record fun members =>
  OwnerRef.mk <$> Reader.field members "email" Reader.text
    <*> Reader.fieldD members "annotations" [] (Reader.tuple remark)

def ownerSet : Reader OwnerSet := Reader.record fun members =>
  OwnerSet.mk <$> Reader.fieldD members "path_expressions" [] (Reader.tuple Reader.text)
    <*> Reader.fieldD members "owners" [] (Reader.tuple ownerRef)
    <*> Reader.fieldD members "ignore_global_and_parent_owners" false Reader.flag

def importScope : Reader ImportScope :=
  Reader.choice [("ALL", .everything), ("GLOBAL_ONLY", .globalOnly)]

def importRecord : Reader Import := Reader.record fun members =>
  Import.mk <$> Reader.fieldD members "project" none (Reader.nullable Reader.text)
    <*> Reader.fieldD members "branch" none (Reader.nullable Reader.text)
    <*> Reader.field members "file_path" absolutePath
    <*> Reader.fieldD members "mode" .everything importScope

def folder : Reader String := fun json =>
  (Reader.text json).andThen fun path => pathRule (Path.normalizeFolder path)

def configKey : Reader ConfigKey := Reader.record fun members =>
  ConfigKey.mk <$> Reader.field members "project" Reader.text
    <*> Reader.field members "branch" Reader.text
    <*> Reader.fieldD members "folder_path" "/" folder
    <*> Reader.fieldD members "file_name" none (Reader.nullable Reader.text)

def ownerConfigWith (key : Reader.Members → Check ConfigKey) : Reader OwnerConfig :=
  Reader.record fun members =>
    OwnerConfig.mk <$> key members
      <*> Reader.fieldD members "ignore_parent_owners" false Reader.flag
      <*> Reader.fieldD members "owner_sets" [] (Reader.tuple ownerSet)
      <*> Reader.fieldD members "imports" [] (Reader.tuple importRecord)

def ownerConfig : Reader OwnerConfig :=
  ownerConfigWith fun members => Reader.field members "key" configKey

/-!
# Accounts
-/

def account : Reader Account := Reader.record fun members =>
  Account.mk <$> Reader.field members "account_id" Reader.integer
    <*> Reader.fieldD members "emails" [] (Reader.tuple Reader.text)
    <*> Reader.fieldD members "display_name" none (Reader.nullable Reader.text)
    <*> Reader.fieldD members "active" true Reader.flag
    <*> Reader.fieldD members "service_user" false Reader.flag

structure Accounts where
  directory : Directory := {}
  permissions : Permissions := {}
deriving Repr

def accounts : Reader Accounts := Reader.record fun members =>
  (fun list owners => { directory := Directory.ofList list, permissions := ⟨owners⟩ })
    <$> Reader.fieldD members "accounts" [] (Reader.list account)
    <*> Reader.fieldD members "project_owners" {} (Reader.table (Reader.list Reader.integer))

/-!
# Changes
-/

def changeKind : Reader ChangeKind :=
  Reader.choice (ChangeKind.all.map fun kind => (kind.name, kind))

/-- A changed file from its checked fields: the paths that its kind calls for must be there. -/
def checkedFile (old new : Check (Option String)) (kind : Check ChangeKind) : Check ChangedFile :=
  (ChangedFile.mk <$> old <*> new <*> kind).andThen fun file =>
    match file.missingPath? with
    | some message => .fail (.rule message)
    | none => pure file

def changedFile : Reader ChangedFile := Reader.record fun members =>
  checkedFile (Reader.fieldD members "old_path" none (Reader.nullable absolutePath))
    (Reader.fieldD members "new_path" none (Reader.nullable absolutePath))
    (Reader.field members "kind" changeKind)

def approval : Reader Approval := Reader.record fun members =>
  Approval.mk <$> Reader.field members "account_id" Reader.integer
    <*> Reader.field members "label" Reader.text
    <*> Reader.field members "value" Reader.integer

def change : Reader Change := Reader.record fun members =>
  Change.mk <$> Reader.field members "project" Reader.text
    <*> Reader.field members "branch" Reader.text
    <*> Reader.field members "number" Reader.integer
    <*> Reader.field members "owner" Reader.integer
    <*> Reader.field members "uploader" Reader.integer
    <*> Reader.field members "current_revision" Reader.text
    <*> Reader.fieldD members "base_revision" none (Reader.nullable Reader.text)
    <*> Reader.fieldD members "reviewers" [] (Reader.distinct Reader.integer)
    <*> Reader.fieldD members "approvals" [] (Reader.tuple approval)

def changeDocument : Reader ChangeDocument := Reader.record fun members =>
  ChangeDocument.mk <$> Reader.field members "change" change
    <*> Reader.fieldD members "changed_files" [] (Reader.list changedFile)

/-!
# Project settings
-/

def importDepth : Reader Nat := fun json =>
  (Reader.integer json).andThen fun depth =>
    if depth < 0 then .fail (.rule "max_import_depth must be >= 0") else pure depth.toNat

def projectFields : List String :=
  ["required_approval", "override_approval", "disabled", "disabled_branches", "backend",
    "backend_by_branch", "file_extension", "global_owners", "max_paths_in_change_messages",
    "enable_async_message_on_add_reviewer", "max_import_depth", "invalid_config_info_url"]

/-- Project settings may have no other fields than those that are known. -/
def projectConfig : Reader ProjectConfig := Reader.record fun members =>
  let fallback : ProjectConfig := {}
  (fun _ config => config) <$> Reader.onlyFields members projectFields <*>
    (ProjectConfig.mk
      <$> Reader.fieldD members "required_approval" fallback.requiredApproval Reader.text
      <*> Reader.fieldD members "override_approval" none (Reader.nullable Reader.text)
      <*> Reader.fieldD members "disabled" fallback.disabled Reader.flag
      <*> Reader.fieldD members "disabled_branches" [] (Reader.list Reader.text)
      <*> Reader.fieldD members "backend" fallback.backend Reader.text
      <*> Reader.fieldD members "backend_by_branch" {} (Reader.table Reader.text)
      <*> Reader.fieldD members "file_extension" none (Reader.nullable Reader.text)
      <*> Reader.fieldD members "global_owners" [] (Reader.list Reader.text)
      <*> Reader.fieldD members "max_paths_in_change_messages" fallback.maxPathsInMessages
        Reader.integer
      <*> Reader.fieldD members "enable_async_message_on_add_reviewer" fallback.asyncMessages
        Reader.flag
      <*> Reader.fieldD members "max_import_depth" fallback.maxImportDepth importDepth
      <*> Reader.fieldD members "invalid_config_info_url" none (Reader.nullable Reader.text))

end Document
end Ownership
