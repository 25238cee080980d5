import SubspaceSdk.ProofKit.Edited
import SubspaceSdk.Node.Config

/-! A saved configuration of a node that was edited by hand: settings were taken out, among them
those of `Base`, which stand among the others, and settings that no version knows were added. -/

namespace SubspaceSdk

open ProofKit Codec

variable {leaf : LeafTypes}

namespace Base

/-- The settings whose entries are kept, and the defaults of the others. -/
def kept (keep : String → Bool) (b : Base leaf) : Base leaf where
  forceAuthoring := if keep "force_authoring" then b.forceAuthoring else false
  role := if keep "role" then b.role else .default
  blocksPruning := if keep "blocks_pruning" then b.blocksPruning else .default
  statePruning := if keep "state_pruning" then b.statePruning else .default
  implName := if keep "impl_name" then b.implName else .default
  implVersion := if keep "impl_version" then b.implVersion else .default leaf.gitHash
  rpc := if keep "rpc" then b.rpc else .default leaf
  network := if keep "network" then b.network else .default leaf
  offchainWorker := if keep "offchain_worker" then b.offchainWorker else .default
  informantEnableColor := if keep "informant_enable_color" then b.informantEnableColor else false
  telemetry := if keep "telemetry" then b.telemetry else []
  devKeySeed := if keep "dev_key_seed" then b.devKeySeed else none

theorem keeps (keep : String → Bool) (b : Base leaf) :
    (record leaf).Keeps keep b (b.kept keep) :=
  (Record.build_keeps _)
    |>.field (bool_restores _) (orDefault_faithful _ _) rfl
    |>.field (Role.restores _) (orDefault_faithful _ _) rfl
    |>.field (BlocksPruning.restores _) (orDefault_faithful _ _) rfl
    |>.field (PruningMode.restores _) (orDefault_faithful _ _) rfl
    |>.field (ImplName.restores _) (orDefault_faithful _ _) rfl
    |>.field (ImplVersion.restores _) (orDefault_faithful _ _) rfl
    |>.field (Rpc.restores _) (orDefault_faithful _ _) rfl
    |>.field (Network.restores _) (orDefault_faithful _ _) rfl
    |>.field (OffchainWorker.restores _) (orDefault_faithful _ _) rfl
    |>.field (bool_restores _) (orDefault_faithful _ _) rfl
    |>.field (list_restores fun endpoint _ =>
        pair_restores (leaf.multiaddr_restores endpoint.1) (uint_restores endpoint.2))
      (orDefault_faithful _ _) rfl
    |>.field (option_restores (fun s _ => string_restores s) string_writesNoNull)
      (orDefault_faithful _ _) rfl

end Base

namespace Config

def kept (keep : String → Bool) (c : Config leaf) : Config leaf where
  segmentPublishConcurrency :=
    if keep "segment_publish_concurrency" then c.segmentPublishConcurrency else .default
  syncFromDsn := if keep "sync_from_dsn" then c.syncFromDsn else false
  base := c.base.kept keep
  dsn := if keep "dsn" then c.dsn else .default leaf
  storageMonitor := if keep "storage_monitor" then c.storageMonitor else none
  enableSubspaceBlockRelay :=
    if keep "enable_subspace_block_relay" then c.enableSubspaceBlockRelay else false
  domain := if keep "domain" then c.domain else none
  isTimekeeper := if keep "is_timekeeper" then c.isTimekeeper else false
  timekeeperCpuCores := if keep "timekeeper_cpu_cores" then c.timekeeperCpuCores else ∅
  potExternalEntropy := if keep "pot_external_entropy" then c.potExternalEntropy else none

theorem keeps (keep : String → Bool) (c : Config leaf)
    (monitor : (StorageMonitor.codec leaf.bytesize).option.Restores c.storageMonitor)
    (utf8Path : ∀ path ∈ c.dsn.providerStoragePath, path.IsUtf8) :
    (record leaf).Keeps keep c (c.kept keep) :=
  (Record.build_keeps _)
    |>.field (SegmentPublishConcurrency.restores _) (orDefault_faithful _ _) rfl
    |>.field (bool_restores _) (orDefault_faithful _ _) rfl
    |>.flatten (Base.keeps keep _) (Base.restores _) (Base.keys_nodup leaf) (Base.leftOut _)
    |>.field (Dsn.restores _ utf8Path) (orDefault_faithful _ _) rfl
    |>.field monitor (orDefault_faithful _ _) rfl
    |>.field (bool_restores _) (orDefault_faithful _ _) rfl
    |>.field (option_restores (fun domain _ => domain.restores) (Record.codec_writesNoNull _))
      (orDefault_faithful _ _) rfl
    |>.field (bool_restores _) (orDefault_faithful _ _) rfl
    |>.field (set_restores (fun n => uint_restores n) (leaf.iterate_members _))
      (orDefault_faithful _ _) rfl
    |>.field (option_restores (fun _ _ => list_restores fun byte _ => uint_restores byte)
        (list_writesNoNull _)) (orDefault_faithful _ _) rfl

/-- Every edit of a saved configuration whose storage monitor is absent or read back as it was, and
whose paths can be written, is read as the settings that the edit keeps, with the defaults of the
others. -/
theorem restored_afterEdit (c : Config leaf)
    (monitor : (StorageMonitor.codec leaf.bytesize).option.Restores c.storageMonitor)
    (utf8Path : ∀ path ∈ c.dsn.providerStoragePath, path.IsUtf8) : ∃ entries,
    (codec leaf).serialize c = some (.obj entries) ∧
      ∀ keep edited, Edited (record leaf).keys keep entries edited →
        (codec leaf).deserialize (.obj edited) = some (c.kept keep) := by
  have restored := c.restores monitor utf8Path
  obtain ⟨entries, written, -⟩ := restored.entries (keys_nodup leaf)
  refine ⟨entries, written, fun keep edited edit => ?_⟩
  exact (c.keeps keep monitor utf8Path).edited restored (keys_nodup leaf) written edit

/-- The domain and the settings of the RPC server are taken out, and a comment is put first. -/
theorem restored_afterEdit_timekeeper : ∃ entries,
    (codec textLeaves).serialize timekeeper = some (.obj entries) ∧
      (codec textLeaves).deserialize (.obj (("comment", .str "") ::
        entries.filter fun entry => entry.1 ≠ "domain" && entry.1 ≠ "rpc")) =
        some { timekeeper with
          domain := none
          base := { timekeeper.base with rpc := .default textLeaves } } := by
  obtain ⟨entries, written, read⟩ := restored_afterEdit timekeeper option_restores_none nofun
  refine ⟨entries, written, ?_⟩
  have edit : Edited (record textLeaves).keys (fun key => key ≠ "domain" && key ≠ "rpc") entries
      (("comment", .str "") ::
        entries.filter fun entry => entry.1 ≠ "domain" && entry.1 ≠ "rpc") := by
    refine ⟨[("comment", .str "")], fun entry mem => ?_, ?_⟩
    · rw [List.mem_singleton.mp mem, Record.keys, record_own, record_flat, Base.record_keys]
      decide
    · exact (List.perm_append_singleton _ _).symm
  exact read _ _ edit

end Config

end SubspaceSdk
