import Acquisition.Client.Qbittorrent
import Acquisition.Client.Sabnzbd
import Acquisition.Settings.Basic

/-!
# Configured clients

The clients of a configuration, in its order and without those that are switched off.
-/

namespace Acquisition

variable {σ : Type}

/-- The client that a section configures. -/
def ClientSettings.client (settings : ClientSettings) (transport : Transport σ) :
    DownloadClient σ :=
  let base := trimBase settings.baseUrl
  match settings.kind with
  | .qbittorrent =>
    Qbittorrent.client
      ⟨settings.name, base, settings.username, settings.password, settings.category⟩ transport
  | .sabnzbd =>
    Sabnzbd.client ⟨settings.name, base, settings.apiKey, settings.category⟩ transport

/-- The clients that are switched on. -/
def ClientRegistry.ofSettings (sections : List ClientSettings) (transport : Transport σ) :
    ClientRegistry σ :=
  (sections.filter (·.enabled)).map (·.client transport)

end Acquisition
