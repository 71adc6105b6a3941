import LoginRisk.Settings.Basic

/-!
Sizes for which memory can be addressed. Settings beyond them are accepted, but nothing can be made from
them.
-/

namespace LoginRisk

def LearningSettings.fits (s : LearningSettings) : Bool := s.queueCapacity < 0x2000000000000000

def EmbeddingSettings.fits (s : EmbeddingSettings) : Bool := s.dimension < 0x2000000000000000

/-- Whether a table for the cache can be made, which is a power of two with an eighth of it free. -/
def CacheSettings.fits (s : CacheSettings) : Bool := s.capacity ≤ 7 * 0x80000000000000

/-- Whether the lists of past durations, of 8 bytes each, and of errors, of 112 bytes each, can be
made: no list takes `2 ^ 63` bytes. -/
def MetricsSettings.fits (s : MetricsSettings) : Bool :=
  s.processingWindow * 8 < 0x8000000000000000 && s.errorHistorySize * 112 < 0x8000000000000000

def Settings.pipelineFits (s : Settings) : Bool := s.cache.fits && s.metrics.fits

end LoginRisk
