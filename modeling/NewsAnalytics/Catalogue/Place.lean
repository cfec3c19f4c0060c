import NewsAnalytics.Catalogue.Entry

/-!
# Regions and cities

Listings are asked for by region or by city. Cities are grouped by
country; looking up a city by name goes through all groups.
-/

namespace NewsAnalytics.Catalogue

/-- All regions. -/
def regions : List Entry :=
  [⟨279, "World"⟩, ⟨45, "U.S."⟩, ⟨46, "U.K."⟩, ⟨49, "Australia"⟩, ⟨47, "Canada"⟩,
   ⟨48, "Ireland"⟩, ⟨50, "New Zealand"⟩, ⟨51, "India"⟩, ⟨52, "Europe"⟩, ⟨54, "China"⟩,
   ⟨57, "Africa"⟩, ⟨56, "South Africa"⟩, ⟨99, "Brasil"⟩, ⟨634, "México"⟩,
   ⟨100, "Portugal"⟩, ⟨139, "España"⟩, ⟨277, "France"⟩, ⟨278, "Deutschland"⟩,
   ⟨318, "België"⟩, ⟨370, "Belgique"⟩, ⟨371, "Nederland"⟩, ⟨367, "Eesti"⟩,
   ⟨416, "Suomi"⟩, ⟨536, "Sverige"⟩, ⟨580, "Italia"⟩, ⟨631, "South East Asia"⟩,
   ⟨632, "Middle East"⟩, ⟨650, "Argentina"⟩, ⟨656, "Norge"⟩, ⟨666, "U.S. Hispanic"⟩]

/-- The cities with local coverage, by country. -/
def cityGroups : List (String × List Entry) :=
  [("U.S.",
    [⟨163, "Atlanta, GA"⟩, ⟨140, "Austin, TX"⟩, ⟨164, "Baltimore, MD"⟩,
     ⟨165, "Boston, MA"⟩, ⟨141, "North Carolina"⟩, ⟨166, "Chicago, IL"⟩,
     ⟨142, "Cincinnati, OH"⟩, ⟨143, "Cleveland, OH"⟩, ⟨144, "Columbus, OH"⟩,
     ⟨167, "Connecticut, CT"⟩, ⟨145, "Dallas, TX"⟩, ⟨168, "Denver, CO"⟩,
     ⟨146, "Detroit, MI"⟩, ⟨147, "Houston, TX"⟩, ⟨169, "Indianapolis, IN"⟩,
     ⟨170, "Jacksonville, FL"⟩, ⟨148, "Kansas City, MO"⟩, ⟨171, "L.A., CA"⟩,
     ⟨149, "Las Vegas, NV"⟩, ⟨150, "Long Island, NY"⟩, ⟨151, "Memphis, TN"⟩,
     ⟨172, "Miami, FL"⟩, ⟨152, "Minneapolis, MN"⟩, ⟨153, "Nashville, TN"⟩,
     ⟨173, "New Orleans, LA"⟩, ⟨174, "New York, NY"⟩, ⟨154, "Oklahoma City, OK"⟩,
     ⟨175, "Orlando, FL"⟩, ⟨155, "Philadelphia, PA"⟩, ⟨176, "Phoenix, AZ"⟩,
     ⟨156, "Pittsburgh, PA"⟩, ⟨157, "Portland, OR"⟩, ⟨630, "Richmond, VA"⟩,
     ⟨177, "Sacramento, CA"⟩, ⟨158, "Salt Lake City, UT"⟩, ⟨159, "San Antonio, TX"⟩,
     ⟨178, "San Diego, CA"⟩, ⟨179, "San Francisco, CA"⟩, ⟨180, "San Jose, CA"⟩,
     ⟨160, "Seattle, WA"⟩, ⟨161, "St. Louis, MO"⟩, ⟨181, "Tampa, FL"⟩,
     ⟨162, "Washington, DC"⟩, ⟨657, "Omaha, NE"⟩, ⟨658, "Des Moines, IA"⟩,
     ⟨659, "Little Rock, AR"⟩, ⟨660, "Milwaukee, WI"⟩]),
   ("U.K.",
    [⟨417, "London"⟩, ⟨418, "Birmingham"⟩, ⟨419, "Manchester"⟩, ⟨420, "Liverpool"⟩,
     ⟨421, "Scotland"⟩, ⟨422, "Wales"⟩, ⟨424, "Midlands"⟩, ⟨425, "North England"⟩,
     ⟨426, "Yorkshire and Humber"⟩, ⟨427, "South East England"⟩, ⟨428, "East England"⟩,
     ⟨431, "South West England"⟩]),
   ("Canada",
    [⟨186, "Calgary"⟩, ⟨187, "Edmonton"⟩, ⟨183, "Montreal"⟩, ⟨185, "Ottawa"⟩,
     ⟨182, "Toronto"⟩, ⟨184, "Vancouver"⟩]),
   ("Deutschland",
    [⟨263, "Baden-Württemberg"⟩, ⟨264, "Bayern"⟩, ⟨265, "Berlin-Brandenburg"⟩,
     ⟨266, "Hamburg-Schleswig-Holstein"⟩, ⟨267, "Hessen"⟩, ⟨440, "Lower Saxony"⟩,
     ⟨268, "Mecklenburg-Vorpommern"⟩, ⟨269, "Niedersachsen-Bremen"⟩,
     ⟨270, "Nordrhein-Westfalen"⟩, ⟨272, "Rheinland-Pfalz"⟩, ⟨273, "Saarland"⟩,
     ⟨274, "Sachsen"⟩, ⟨275, "Sachsen-Anhalt"⟩, ⟨276, "Thüringen"⟩])]

/-- The name of a region. -/
def regionName? (id : Nat) : Option String := nameOf? regions id

/-- The region of a name. -/
def region? (name : String) : Option Entry := named? regions name

/-- The cities of all groups. -/
def allCities : List Entry := cityGroups.flatMap Prod.snd

/-- The cities of a country; none without local coverage. -/
def cities (country : String) : List Entry :=
  (cityGroups.filter fun group => sameName group.1 country).flatMap Prod.snd

/-- The city of a name, in any country. -/
def city? (name : String) : Option Entry := named? allCities name

end NewsAnalytics.Catalogue
