import SubspaceSdk.ProofKit.Edited
import SubspaceSdk.Substrate.Types

/-! `Config` of `sdk-farmer`, the settings of a farmer that are saved on disk.  The two limits are
left out where they have their defaults; the other settings are always written, and may be missing
from a file all the same. -/

namespace SubspaceSdk

open ProofKit Codec

abbrev NonZeroUsize := {n : BitVec 64 // n ≠ 0}

def NonZeroUsize.codec : Codec NonZeroUsize := (uint 64).restrict fun n => n ≠ 0

theorem NonZeroUsize.restores (n : NonZeroUsize) : codec.Restores n :=
  restrict_restores (uint_restores _)

theorem NonZeroUsize.writesNoNull : codec.WritesNoNull := fun n => uint_writesNoNull 64 n.val

/-- Number of farms that can be plotted concurrently. -/
structure MaxConcurrentFarms where
  farms : NonZeroUsize
  deriving DecidableEq

namespace MaxConcurrentFarms

theorem ten_ne_zero : (10 : BitVec 64) ≠ 0 := by decide

def default : MaxConcurrentFarms := ⟨⟨10, ten_ne_zero⟩⟩

def codec : Codec MaxConcurrentFarms := NonZeroUsize.codec.map mk farms

theorem restores (x : MaxConcurrentFarms) : codec.Restores x :=
  map_restores (NonZeroUsize.restores _) rfl

end MaxConcurrentFarms

structure ProvidedKeysLimit where
  limit : NonZeroUsize
  deriving DecidableEq

namespace ProvidedKeysLimit

def default : ProvidedKeysLimit := ⟨⟨655360, by decide⟩⟩

def codec : Codec ProvidedKeysLimit := NonZeroUsize.codec.map mk limit

theorem restores (x : ProvidedKeysLimit) : codec.Restores x :=
  map_restores (NonZeroUsize.restores _) rfl

end ProvidedKeysLimit

/-- The settings of a farmer. -/
structure FarmerConfig where
  maxConcurrentFarms : MaxConcurrentFarms
  providedKeysLimit : ProvidedKeysLimit
  /-- Maximum number of pieces in a sector. -/
  maxPiecesInSector : Option (BitVec 16)
  farmingThreadPoolSize : Option NonZeroUsize
  plottingThreadPoolSize : Option NonZeroUsize
  sectorDownloadingConcurrency : Option NonZeroUsize
  sectorEncodingConcurrency : Option NonZeroUsize
  replottingThreadPoolSize : Option NonZeroUsize
  deriving DecidableEq

namespace FarmerConfig

def default : FarmerConfig where
  maxConcurrentFarms := .default
  providedKeysLimit := .default
  maxPiecesInSector := none
  farmingThreadPoolSize := none
  plottingThreadPoolSize := none
  sectorDownloadingConcurrency := none
  sectorEncodingConcurrency := none
  replottingThreadPoolSize := none

def record : Record FarmerConfig FarmerConfig :=
  (Record.build FarmerConfig.mk)
    |>.field "max_concurrent_farms" maxConcurrentFarms MaxConcurrentFarms.codec
      (orDefault .default)
    |>.field "provided_keys_limit" providedKeysLimit ProvidedKeysLimit.codec (orDefault .default)
    |>.field "max_pieces_in_sector" maxPiecesInSector (uint 16).option .optional
    |>.field "farming_thread_pool_size" farmingThreadPoolSize NonZeroUsize.codec.option .optional
    |>.field "plotting_thread_pool_size" plottingThreadPoolSize NonZeroUsize.codec.option
      .optional
    |>.field "sector_downloading_concurrency" sectorDownloadingConcurrency
      NonZeroUsize.codec.option .optional
    |>.field "sector_encoding_concurrency" sectorEncodingConcurrency NonZeroUsize.codec.option
      .optional
    |>.field "replotting_thread_pool_size" replottingThreadPoolSize NonZeroUsize.codec.option
      .optional

def codec : Codec FarmerConfig := record.codec

theorem record_keys : record.keys =
    ["max_concurrent_farms", "provided_keys_limit", "max_pieces_in_sector",
      "farming_thread_pool_size", "plotting_thread_pool_size", "sector_downloading_concurrency",
      "sector_encoding_concurrency", "replotting_thread_pool_size"] := by
  simp [Record.keys, record]

theorem keys_nodup : record.keys.Nodup := by
  rw [record_keys]
  decide

theorem size_restores (n : Option NonZeroUsize) : NonZeroUsize.codec.option.Restores n :=
  option_restores (fun n _ => n.restores) NonZeroUsize.writesNoNull

theorem pieces_restores (n : Option (BitVec 16)) : (uint 16).option.Restores n :=
  option_restores (fun n _ => uint_restores n) (uint_writesNoNull 16)

theorem restores (c : FarmerConfig) : record.Restores c c :=
  (Record.build_restores _)
    |>.field (MaxConcurrentFarms.restores _) (orDefault_faithful _ _)
    |>.field (ProvidedKeysLimit.restores _) (orDefault_faithful _ _)
    |>.field (pieces_restores _) (Omission.optional_faithful _)
    |>.field (size_restores _) (Omission.optional_faithful _)
    |>.field (size_restores _) (Omission.optional_faithful _)
    |>.field (size_restores _) (Omission.optional_faithful _)
    |>.field (size_restores _) (Omission.optional_faithful _)
    |>.field (size_restores _) (Omission.optional_faithful _)

/-- The settings whose entries are kept, and the defaults of the others. -/
def kept (keep : String → Bool) (c : FarmerConfig) : FarmerConfig where
  maxConcurrentFarms := if keep "max_concurrent_farms" then c.maxConcurrentFarms else .default
  providedKeysLimit := if keep "provided_keys_limit" then c.providedKeysLimit else .default
  maxPiecesInSector := if keep "max_pieces_in_sector" then c.maxPiecesInSector else none
  farmingThreadPoolSize :=
    if keep "farming_thread_pool_size" then c.farmingThreadPoolSize else none
  plottingThreadPoolSize :=
    if keep "plotting_thread_pool_size" then c.plottingThreadPoolSize else none
  sectorDownloadingConcurrency :=
    if keep "sector_downloading_concurrency" then c.sectorDownloadingConcurrency else none
  sectorEncodingConcurrency :=
    if keep "sector_encoding_concurrency" then c.sectorEncodingConcurrency else none
  replottingThreadPoolSize :=
    if keep "replotting_thread_pool_size" then c.replottingThreadPoolSize else none

theorem keeps (keep : String → Bool) (c : FarmerConfig) : record.Keeps keep c (c.kept keep) :=
  (Record.build_keeps _)
    |>.field (MaxConcurrentFarms.restores _) (orDefault_faithful _ _) rfl
    |>.field (ProvidedKeysLimit.restores _) (orDefault_faithful _ _) rfl
    |>.field (pieces_restores _) (Omission.optional_faithful _) rfl
    |>.field (size_restores _) (Omission.optional_faithful _) rfl
    |>.field (size_restores _) (Omission.optional_faithful _) rfl
    |>.field (size_restores _) (Omission.optional_faithful _) rfl
    |>.field (size_restores _) (Omission.optional_faithful _) rfl
    |>.field (size_restores _) (Omission.optional_faithful _) rfl

/-- The settings of a farmer are written as an object in which no two entries have one key, and
every edit of it is read as the settings that it keeps, with the defaults of the others. -/
theorem restored_edited (c : FarmerConfig) : ∃ entries,
    codec.serialize c = some (.obj entries) ∧ (entries.map Prod.fst).Nodup ∧
      codec.deserialize (.obj entries) = some c ∧
      ∀ keep edited, Edited record.keys keep entries edited →
        codec.deserialize (.obj edited) = some (c.kept keep) := by
  obtain ⟨entries, written, nodup, back⟩ := (restores c).entries keys_nodup
  refine ⟨entries, written, nodup, back, fun keep edited edit => ?_⟩
  exact (keeps keep c).edited (restores c) keys_nodup written edit

/-- The limit is taken out, and a setting that is not known stands first. -/
theorem restored_edited_threeFarms : ∃ entries,
    codec.serialize { default with maxConcurrentFarms := ⟨⟨3, by decide⟩⟩ } = some (.obj entries) ∧
      codec.deserialize (.obj (("disk", .num 1) ::
        entries.filter fun entry => entry.1 ≠ "max_concurrent_farms")) = some default := by
  obtain ⟨entries, written, -, -, read⟩ :=
    restored_edited { default with maxConcurrentFarms := ⟨⟨3, by decide⟩⟩ }
  refine ⟨entries, written, ?_⟩
  have edit : Edited record.keys (fun key => key ≠ "max_concurrent_farms") entries
      (("disk", .num 1) :: entries.filter fun entry => entry.1 ≠ "max_concurrent_farms") := by
    refine ⟨[("disk", .num 1)], fun entry mem => ?_, ?_⟩
    · rw [List.mem_singleton.mp mem, record_keys]
      decide
    · exact (List.perm_append_singleton _ _).symm
  exact read _ _ edit

end FarmerConfig

end SubspaceSdk
