import RestaurantServer.PaddedColumns
import RestaurantServer.RestaurantStore

/-!
The list of restaurants as a text format. A client that takes the lines apart at the
tabs, and cuts the blanks off the columns, gets the stored restaurants back exactly
if their strings have no tabs and no blanks at the end.
-/

namespace RestaurantServer.ListedRestaurants

open RestaurantServer.JavaStrings
open RestaurantServer.KeyedRows
open RestaurantServer.PaddedColumns
open RestaurantServer.SessionUtil
open RestaurantServer.RestaurantController
open RestaurantServer.RestaurantStore

/-- What a client reads from a line. The last character is the end of the line. -/
def readRestaurant (text : String) : Option Restaurant :=
  match readLine ' ' '\t' text.toList.dropLast with
  | [cuisine, seating, restaurantId] =>
      some ⟨some (String.ofList restaurantId), some (String.ofList cuisine),
        some (String.ofList seating)⟩
  | _ => none

def Legible (restaurant : Restaurant) : Prop :=
  ∀ text ∈ [restaurant.cuisine, restaurant.seating, restaurant.restaurantId],
    ∀ value, text = some value → Plain ' ' '\t' value.toList

section Lines

/-- The blanks that `%-20s` puts behind a string. -/
def blanks (text : String) : Nat :=
  20 - utf16Length text

theorem dropLast_render (restaurantId cuisine seating : String) :
    (render ⟨some restaurantId, some cuisine, some seating⟩).toList.dropLast =
      line ' ' '\t' [(cuisine.toList, blanks cuisine), (seating.toList, blanks seating),
        (restaurantId.toList, blanks restaurantId)] := by
  have hrender : (render ⟨some restaurantId, some cuisine, some seating⟩).toList =
      line ' ' '\t' [(cuisine.toList, blanks cuisine), (seating.toList, blanks seating),
        (restaurantId.toList, blanks restaurantId)] ++ ['\n'] := by
    simp [render, formatRestaurant, leftJustified, valueOf, line, blanks, List.intercalate]
  rw [hrender, List.dropLast_concat]

theorem readRestaurant_render {restaurant : Restaurant} (hcomplete : Complete restaurant)
    (hlegible : Legible restaurant) : readRestaurant (render restaurant) = some restaurant := by
  obtain ⟨restaurantId, cuisine, seating⟩ := restaurant
  obtain ⟨⟨restaurantId, rfl, -⟩, hcuisine, hseating⟩ := hcomplete
  obtain ⟨cuisine, rfl⟩ := Option.isSome_iff_exists.mp hcuisine
  obtain ⟨seating, rfl⟩ := Option.isSome_iff_exists.mp hseating
  have hplain : ∀ field ∈ [(cuisine.toList, blanks cuisine), (seating.toList, blanks seating),
      (restaurantId.toList, blanks restaurantId)], Plain ' ' '\t' field.1 := by
    simpa [Legible] using hlegible
  rw [readRestaurant, dropLast_render, readLine_line (by simp) (by decide) hplain]
  simp

/-- Only legible restaurants are ever read, whatever the text. -/
theorem legible_of_readRestaurant {text : String} {restaurant : Restaurant}
    (hread : readRestaurant text = some restaurant) : Legible restaurant := by
  unfold readRestaurant at hread
  split at hread
  · rename_i cuisine seating restaurantId hline
    obtain rfl := Option.some.inj hread
    have hplain : ∀ field ∈ [cuisine, seating, restaurantId], Plain ' ' '\t' field :=
      fun field hfield => plain_of_mem_readLine (hline ▸ hfield)
    simpa [Legible] using hplain
  · cases hread

end Lines

section Lists

theorem represents_filterMap_readRestaurant_iff {store : Option String → Option Restaurant}
    {restaurants : List Restaurant}
    (hrepresents : Represents Restaurant.restaurantId store restaurants)
    (hcomplete : ∀ restaurant ∈ restaurants, Complete restaurant) :
    Represents Restaurant.restaurantId store
        ((restaurants.map render).filterMap readRestaurant) ↔
      ∀ restaurantId restaurant, store restaurantId = some restaurant → Legible restaurant := by
  constructor
  · intro hread restaurantId restaurant hstored
    have hmem := ((hread.2 restaurantId restaurant).mp hstored).1
    obtain ⟨text, -, htext⟩ := List.mem_filterMap.mp hmem
    exact legible_of_readRestaurant htext
  · intro hlegible
    have hread : (restaurants.map render).filterMap readRestaurant = restaurants := by
      rw [List.filterMap_map]
      conv_rhs => rw [← List.filterMap_some (l := restaurants)]
      refine List.filterMap_congr fun restaurant hrestaurant => ?_
      have hstored : store restaurant.restaurantId = some restaurant :=
        (hrepresents.2 _ _).mpr ⟨hrestaurant, rfl⟩
      exact readRestaurant_render (hcomplete restaurant hrestaurant)
        (hlegible _ _ hstored)
    rw [hread]
    exact hrepresents

end Lists

/-- The lines of a list are those of the restaurants added last under their
identifiers. A client reads the whole map back exactly if these are all legible. -/
theorem listed_restaurants_read_back {world : World} (hempty : EmptyStore world)
    {requests : List (Request × Environment)}
    (hundisturbed : ∀ request ∈ requests, Undisturbed request)
    {environment : Environment} (hfails : ∀ n, environment.fails n = false) :
    ∃ lines,
      answer (requests.foldl handle world) (.getRestaurants, environment) =
        .ok (.list lines) ∧
      (Represents Restaurant.restaurantId (latest requests)
          (lines.filterMap readRestaurant) ↔
        ∀ restaurantId restaurant, latest requests restaurantId = some restaurant →
          Legible restaurant) := by
  have hstores := stores_foldl hempty hundisturbed
  obtain ⟨restaurants, hanswer, hrepresents, hcomplete⟩ := hstores.answer_get hfails
  exact ⟨restaurants.map render, hanswer,
    represents_filterMap_readRestaurant_iff hrepresents hcomplete⟩

theorem listed_restaurants_read_back_threeAdditions :
    ∃ lines,
      answer (threeAdditions.foldl handle (initialWorld emptyNetwork localProperties))
          (.getRestaurants, surroundings false .unreadable) = .ok (.list lines) ∧
        (Represents Restaurant.restaurantId (latest threeAdditions)
            (lines.filterMap readRestaurant) ↔
          ∀ restaurantId restaurant, latest threeAdditions restaurantId = some restaurant →
            Legible restaurant) :=
  listed_restaurants_read_back emptyStore_emptyNetwork
    (fun request hrequest =>
      undisturbed_threeAdditions request (List.mem_append_left _ hrequest))
    fun _ => rfl

end RestaurantServer.ListedRestaurants
